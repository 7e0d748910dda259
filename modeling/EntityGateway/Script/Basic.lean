import EntityGateway.NameMap
import EntityGateway.Script.FileSystem
import EntityGateway.Store.Dialogue
import EntityGateway.Time.Instant

/-!
# Scripts

A script says what a program does with its surroundings: which files it reads and writes, which
variables of the environment it looks at, and which requests it sends. Every step is followed by the
rest of the script, as a function of what the step brought. A program carries a script out;
`Script.run` carries it out on a value that stands for the surroundings.
-/

namespace EntityGateway

/-- What a program does, and its result. -/
inductive Script (α : Type) where
  | done (result : α)
  | readFile (path : String) (next : Except FileError String → Script α)
  | hasEntry (path : String) (next : Bool → Script α)
  | makeDirectories (path : String) (next : Except FileError Unit → Script α)
  | writeFile (path content : String) (next : Except FileError Unit → Script α)
  | readVariable (name : String) (next : Option String → Script α)
  | readClock (next : Instant → Script α)
  | send (request : Http.Request) (next : Option Http.Response → Script α)

namespace Script

variable {α β : Type}

/-- Goes on with another script. -/
def andThen (s : Script α) (f : α → Script β) : Script β :=
  match s with
  | done a => f a
  | readFile path next => readFile path fun answer => (next answer).andThen f
  | hasEntry path next => hasEntry path fun answer => (next answer).andThen f
  | makeDirectories path next => makeDirectories path fun answer => (next answer).andThen f
  | writeFile path content next => writeFile path content fun answer => (next answer).andThen f
  | readVariable name next => readVariable name fun answer => (next answer).andThen f
  | readClock next => readClock fun answer => (next answer).andThen f
  | send request next => send request fun answer => (next answer).andThen f

instance : Monad Script where
  pure := done
  bind := andThen

/-- Goes on with the result if it is no error. -/
def andThenOk {ε : Type} (s : Script (Except ε α)) (f : α → Script (Except ε β)) :
    Script (Except ε β) :=
  s.andThen fun
    | .ok a => f a
    | .error e => done (.error e)

/-- A dialogue as a part of a script, which keeps no counts. -/
def ofDialogue {ε : Type} : Dialogue ε α → Script (Except ε α)
  | .ended outcome => done outcome
  | .count _ rest => ofDialogue rest
  | .send _ request next => send request fun response => ofDialogue (next response)

/-- What surrounds a program. -/
structure Surroundings where
  files : FileSystem := {}
  environment : NameMap String := .empty
  now : Instant
  /-- The responses to the requests that will be sent; `none` stands for a closed connection. -/
  responses : List (Option Http.Response) := []
  /-- The requests that were sent. -/
  sent : List Http.Request := []

/-- Makes directories. -/
def Surroundings.makeDirectories (w : Surroundings) (path : String) :
    Except FileError Unit × Surroundings :=
  let (answer, files) := w.files.makeDirectories path
  (answer, { w with files })

/-- Writes a file, unless that fails. -/
def Surroundings.writeFile (w : Surroundings) (path content : String) :
    Except FileError Unit × Surroundings :=
  match w.files.write path content with
  | .ok files => (.ok (), { w with files })
  | .error e => (.error e, w)

/-- Sends a request, if it can be sent. -/
def Surroundings.exchange (w : Surroundings) (request : Http.Request) :
    Option Http.Response × Surroundings :=
  if request.isSendable then
    (w.responses.head?.join,
      { w with responses := w.responses.tail, sent := w.sent ++ [request] })
  else (none, w)

/-- Carries a script out. -/
def run : Script α → Surroundings → α × Surroundings
  | done a, w => (a, w)
  | readFile path next, w => (next (w.files.read path)).run w
  | hasEntry path next, w => (next (w.files.hasEntry path)).run w
  | makeDirectories path next, w =>
    let (answer, w') := w.makeDirectories path
    (next answer).run w'
  | writeFile path content next, w =>
    let (answer, w') := w.writeFile path content
    (next answer).run w'
  | readVariable name next, w => (next (w.environment.find? name)).run w
  | readClock next, w => (next w.now).run w
  | send request next, w =>
    let (answer, w') := w.exchange request
    (next answer).run w'

end Script

end EntityGateway
