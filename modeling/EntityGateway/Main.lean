import EntityGateway.CommandLine.Run
import Std.Time.DateTime.Timestamp

/-!
# The program

Carries out the script that the command line asks for, with the files, the variables and the clock
of the process. The program has no transport of its own, so requests stay without a response.
-/

namespace EntityGateway

/-- The number of a cause. The system may give it with a minus sign. -/
def causeNumber (code : UInt32) : Nat :=
  min code.toNat (-code).toNat

/-- The cause behind a failed operation on files. -/
def FileError.ofSystem : IO.Error → FileError
  | .noFileOrDirectory .. => .notFound
  | .alreadyExists .. => .alreadyExists
  | .inappropriateType _ code detail =>
    if causeNumber code = 20 then .notADirectory
    else if causeNumber code = 21 then .isADirectory
    else .other detail
  | .invalidArgument _ code detail =>
    if causeNumber code = 36 then .nameTooLong else .other detail
  | e => .other (toString e)

/-- Tries an operation on files. -/
def attempt {α : Type} (operation : IO α) : IO (Except FileError α) := do
  match ← operation.toBaseIO with
  | .ok a => return .ok a
  | .error e => return .error (.ofSystem e)

/-- Looks whether there is a file or a directory: reading what is not there fails in its own ways.
-/
def lookFor (path : String) : IO Bool := do
  match ← attempt (IO.FS.readFile path) with
  | .error .notFound | .error .notADirectory | .error .nameTooLong => return false
  | _ => return true

/-- A path leads to a directory: reading it fails for that reason. -/
def isDirectory (path : String) : IO Bool := do
  match ← attempt (IO.FS.readFile path) with
  | .error .isADirectory => return true
  | _ => return false

/-- Makes a directory in one that exists, unless it is there. -/
def makeDirectory (path : String) : IO (Except FileError Unit) := do
  match ← attempt (IO.FS.createDir path) with
  | .error .alreadyExists =>
    if ← isDirectory path then return .ok () else return .error .alreadyExists
  | made => return made

/-- Makes the first of some directories, each of which lies in the next one. Where something is
missing on the way, the others are made first. -/
def makeInnermost : List String → IO (Except FileError Unit)
  | [] => return .ok ()
  | path :: outer => do
    match ← makeDirectory path with
    | .error .notFound =>
      match ← makeInnermost outer with
      | .ok () => makeDirectory path
      | failed => return failed
    | made => return made

/-- A path, and then those of the directories that it lies in, from the innermost on. -/
def ancestorPaths (path : String) : List String :=
  let root := if path.startsWith "/" then "/" else ""
  let outer := (FileSystem.ancestors (FileSystem.partsOf path)).tail
  path :: (outer.map fun parts => root ++ "/".intercalate parts).filter (!·.isEmpty)

/-- The present time. -/
def present : IO Instant := do
  let now ← Std.Time.Timestamp.now
  return (Instant.of? now.toSecondsSinceUnixEpoch.toInt 0).getD
    ⟨0, 0, by decide, by decide⟩

/-- Carries out a script. -/
def Script.perform {α : Type} : Script α → IO α
  | .done a => return a
  | .readFile path next => do (next (← attempt (IO.FS.readFile path))).perform
  | .hasEntry path next => do (next (← lookFor path)).perform
  | .makeDirectories path next => do (next (← makeInnermost (ancestorPaths path))).perform
  | .writeFile path content next => do
    (next (← attempt (IO.FS.writeFile path content))).perform
  | .readVariable name next => do (next (← IO.getEnv name)).perform
  | .readClock next => do (next (← present)).perform
  | .send _ next => (next none).perform

end EntityGateway

/-- Does what the words on the command line say. -/
def main (words : List String) : IO UInt32 := do
  let outcome ← (EntityGateway.CommandLine.run words).perform
  IO.print outcome.output
  unless outcome.complaint.isEmpty do IO.eprintln outcome.complaint
  return outcome.status
