import EntityGateway.Http.Message

/-!
# Dialogues

A call to a store is a dialogue: it is over with an outcome, or it sends a request and goes on with
the response, or with the fact that there is none. Each request has a purpose, as it is for an
access token or for data. On its way a dialogue says what is to be counted, at the moment at which
it happens.

`Dialogue.run` holds a dialogue with a list of responses. It says what the outcome is, which
requests were attempted, which of them were sent, and what was counted.
-/

namespace EntityGateway

/-- What a request is for. -/
inductive Purpose where
  | token
  | data
  deriving DecidableEq, Repr

/-- What is counted: calls by their outcome, and attempted requests by their purpose. -/
inductive Counter where
  | succeeded
  | failed
  | tokenRequests
  | dataRequests
  deriving DecidableEq, Repr

/-- An exchange of requests and responses that ends with an outcome. -/
inductive Dialogue (ε α : Type) where
  | ended (outcome : Except ε α)
  | count (counter : Counter) (rest : Dialogue ε α)
  | send (purpose : Purpose) (request : Http.Request)
      (next : Option Http.Response → Dialogue ε α)

namespace Dialogue

variable {ε ε' α β : Type}

/-- Goes on with another dialogue, whatever the outcome of this one. -/
def goOn (d : Dialogue ε α) (next : Except ε α → Dialogue ε' β) : Dialogue ε' β :=
  match d with
  | ended outcome => next outcome
  | count counter rest => count counter (rest.goOn next)
  | send purpose request rest => send purpose request fun response => (rest response).goOn next

/-- Works on the outcome. -/
def mapOutcome (f : Except ε α → Except ε' β) (d : Dialogue ε α) : Dialogue ε' β :=
  d.goOn fun outcome => ended (f outcome)

/-- Goes on with another dialogue unless this one fails. -/
def andThen (d : Dialogue ε α) (next : α → Dialogue ε β) : Dialogue ε β :=
  d.goOn fun
    | .ok a => next a
    | .error e => ended (.error e)

/-- Counts a success, if it is one. -/
def countSuccess (d : Dialogue ε α) : Dialogue ε α :=
  d.goOn fun
    | .ok a => count .succeeded (ended (.ok a))
    | .error e => ended (.error e)

/-- Counts a failure, if it is one. -/
def countFailure (d : Dialogue ε α) : Dialogue ε α :=
  d.goOn fun
    | .ok a => ended (.ok a)
    | .error e => count .failed (ended (.error e))

/-- What became of a dialogue. -/
structure Run (ε α : Type) where
  outcome : Except ε α
  /-- The requests that were attempted, in order. -/
  attempted : List (Purpose × Http.Request)
  /-- What was counted, in order. -/
  counted : List Counter
  /-- The responses that are left. -/
  left : List (Option Http.Response)

/-- Adds a request in front of those that were attempted. -/
def Run.after (purpose : Purpose) (request : Http.Request) (run : Run ε α) : Run ε α :=
  { run with attempted := (purpose, request) :: run.attempted }

/-- Adds something in front of what was counted. -/
def Run.counting (counter : Counter) (run : Run ε α) : Run ε α :=
  { run with counted := counter :: run.counted }

/-- Holds a dialogue. Every request that can be sent takes the next of the responses; `none` among
them stands for a connection that was closed without one. When there are no responses left, nobody
answers any more. -/
def run : Dialogue ε α → List (Option Http.Response) → Run ε α
  | ended outcome, responses => ⟨outcome, [], [], responses⟩
  | count counter rest, responses => (rest.run responses).counting counter
  | send purpose request next, responses =>
    if request.isSendable then
      ((next (responses.head?.join)).run responses.tail).after purpose request
    else ((next none).run responses).after purpose request

/-- The requests that were sent, in order. -/
def Run.sent (run : Run ε α) : List (Purpose × Http.Request) :=
  run.attempted.filter fun attempt => attempt.2.isSendable

/-- A request for a purpose was attempted. -/
def Run.reached (run : Run ε α) (purpose : Purpose) : Bool :=
  run.attempted.any fun attempt => attempt.1 = purpose

/-- The outcome is no failure. -/
def Run.succeeded (run : Run ε α) : Bool :=
  run.outcome.isOk

end Dialogue

end EntityGateway
