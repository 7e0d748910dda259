import EntityGateway.DocumentStore.Client
import EntityGateway.RemoteService.Client

/-!
# What dialogues do

A dialogue that goes on after another one does what the first does and then what it does itself:
`Dialogue.run_goOn`, the one induction over dialogues. From it follows what becomes of an outcome
that is worked on or counted, and from that what each client attempts and counts. Later modules know
the clients by these laws alone.
-/

namespace EntityGateway

/-! ## Requests -/

namespace Http.Request

/-- The response to a request, if it is sent and answered. -/
def response? (r : Request) (responses : List (Option Response)) : Option Response :=
  if r.isSendable then responses.head?.join else none

/-- The responses to later requests. -/
def laterResponses (r : Request) (responses : List (Option Response)) : List (Option Response) :=
  if r.isSendable then responses.tail else responses

/-- A request that is answered was sent, and the answer is the first response. -/
theorem sendable_of_response? {r : Request} {responses : List (Option Response)}
    {response : Response} (answered : r.response? responses = some response) :
    r.isSendable = true ∧ responses.head? = some (some response) := by
  unfold response? at answered
  split at answered
  · rename_i sendable
    exact ⟨sendable, Option.join_eq_some_iff.mp answered⟩
  · cases answered

/-- A request that is never sent is not answered. -/
theorem response?_of_unsendable {r : Request} (unsendable : r.isSendable = false)
    (responses : List (Option Response)) : r.response? responses = none := by
  rw [response?, unsendable]
  rfl

end Http.Request

/-! ## Runs of composed dialogues -/

namespace Dialogue

variable {ε ε' α β : Type}

@[simp] theorem run_ended (outcome : Except ε α) (responses : List (Option Http.Response)) :
    (ended outcome).run responses = ⟨outcome, [], [], responses⟩ :=
  rfl

@[simp] theorem run_count (counter : Counter) (rest : Dialogue ε α)
    (responses : List (Option Http.Response)) :
    (count counter rest).run responses = (rest.run responses).counting counter :=
  rfl

@[simp] theorem run_send (purpose : Purpose) (request : Http.Request)
    (next : Option Http.Response → Dialogue ε α) (responses : List (Option Http.Response)) :
    (send purpose request next).run responses =
      ((next (request.response? responses)).run (request.laterResponses responses)).after
        purpose request := by
  rw [run, Http.Request.response?, Http.Request.laterResponses]
  split <;> rfl

/-- What was done by two dialogues, one after the other. -/
def Run.followedBy (first : Run ε α) (second : Run ε' β) : Run ε' β where
  outcome := second.outcome
  attempted := first.attempted ++ second.attempted
  counted := first.counted ++ second.counted
  left := second.left

/-- A dialogue that goes on is run with the responses that are left to it. -/
theorem run_goOn (d : Dialogue ε α) (next : Except ε α → Dialogue ε' β)
    (responses : List (Option Http.Response)) :
    (d.goOn next).run responses =
      (d.run responses).followedBy
        ((next (d.run responses).outcome).run (d.run responses).left) := by
  -- The responses are generalized: what follows a request is held with the later ones.
  induction d generalizing responses with
  | ended outcome => rfl
  | count counter rest ih => simp [goOn, ih, Run.followedBy, Run.counting]
  | send purpose request rest ih => simp [goOn, ih, Run.followedBy, Run.after]

/-- The same run with another outcome. -/
def Run.withOutcome (run : Run ε α) (outcome : Except ε' β) : Run ε' β where
  outcome := outcome
  attempted := run.attempted
  counted := run.counted
  left := run.left

theorem run_mapOutcome (f : Except ε α → Except ε' β) (d : Dialogue ε α)
    (responses : List (Option Http.Response)) :
    (d.mapOutcome f).run responses =
      (d.run responses).withOutcome (f (d.run responses).outcome) := by
  simp [mapOutcome, run_goOn, Run.followedBy, Run.withOutcome]

/-- A dialogue that failed is not gone on with. -/
theorem run_andThen_of_error {d : Dialogue ε α} {responses : List (Option Http.Response)} {e : ε}
    (failed : (d.run responses).outcome = .error e) (next : α → Dialogue ε β) :
    (d.andThen next).run responses = (d.run responses).withOutcome (.error e) := by
  simp [andThen, run_goOn, failed, Run.followedBy, Run.withOutcome]

/-- A dialogue that went well is gone on with, on its result and the responses that are left. -/
theorem run_andThen_of_ok {d : Dialogue ε α} {responses : List (Option Http.Response)} {a : α}
    (went : (d.run responses).outcome = .ok a) (next : α → Dialogue ε β) :
    (d.andThen next).run responses =
      (d.run responses).followedBy ((next a).run (d.run responses).left) := by
  simp [andThen, run_goOn, went]

theorem run_countSuccess (d : Dialogue ε α) (responses : List (Option Http.Response)) :
    d.countSuccess.run responses =
      { d.run responses with
        counted := (d.run responses).counted ++
          if (d.run responses).succeeded then [.succeeded] else [] } := by
  rw [countSuccess, run_goOn]
  cases outcome : (d.run responses).outcome <;>
    simp [Run.followedBy, Run.counting, Run.succeeded, outcome, Except.isOk, Except.toBool]

theorem run_countFailure (d : Dialogue ε α) (responses : List (Option Http.Response)) :
    d.countFailure.run responses =
      { d.run responses with
        counted := (d.run responses).counted ++
          if (d.run responses).succeeded then [] else [.failed] } := by
  rw [countFailure, run_goOn]
  cases outcome : (d.run responses).outcome <;>
    simp [Run.followedBy, Run.counting, Run.succeeded, outcome, Except.isOk, Except.toBool]

end Dialogue

/-! ## The remote service -/

namespace RemoteService

variable {c : Connection} {path : String} {pageSize : Option UInt32} {α : Type}
  {read : Http.Response → Except StoreError α} {responses : List (Option Http.Response)}

/-- A token comes with a response of success that holds one. -/
theorem response_of_token {response? : Option Http.Response} {token : Store.AccessToken}
    (granted : Store.reading tokenOf response? = .ok token) :
    ∃ response, response? = some response ∧ response.status.isSuccess = true ∧
      decodeText Store.AccessToken.decode response.body = .value token := by
  cases response? with
  | none => cases granted
  | some response =>
      refine ⟨response, rfl, ?_⟩
      change tokenOf response = .ok token at granted
      unfold tokenOf at granted
      split at granted
      · rename_i success
        split at granted
        · cases granted
        · rename_i decoded
          cases granted
          exact ⟨success, decoded⟩
      · cases granted

/-- Acquiring a token attempts one request, and counts it whether it is sent or not. -/
theorem run_acquireToken (c : Connection) (responses : List (Option Http.Response)) :
    (acquireToken c).run responses =
      ⟨Store.reading tokenOf ((tokenRequest c).response? responses), [(.token, tokenRequest c)],
        [.tokenRequests], (tokenRequest c).laterResponses responses⟩ := by
  simp [acquireToken, Dialogue.Run.counting, Dialogue.Run.after]

theorem run_request (token : Store.AccessToken) (path : String) (pageSize : Option UInt32)
    (read : Http.Response → Except StoreError α) (responses : List (Option Http.Response)) :
    (request token path pageSize read).run responses =
      let get := dataRequest token path pageSize
      ⟨Store.reading read (get.response? responses), [(.data, get)], [.dataRequests],
        get.laterResponses responses⟩ := by
  simp [request, Dialogue.Run.counting, Dialogue.Run.after]

/-- Without a token, nothing but the token is asked for. -/
theorem run_of_noToken {e : StoreError}
    (refused : Store.reading tokenOf ((tokenRequest c).response? responses) = .error e) :
    ((acquireToken c).andThen fun token => request token path pageSize read).run responses =
      ⟨.error e, [(.token, tokenRequest c)], [.tokenRequests],
        (tokenRequest c).laterResponses responses⟩ := by
  have failed : ((acquireToken c).run responses).outcome = .error e := by
    rw [run_acquireToken, refused]
  rw [Dialogue.run_andThen_of_error failed, run_acquireToken, Dialogue.Run.withOutcome]

/-- With a token, the data is asked for next. -/
theorem run_of_token {token : Store.AccessToken}
    (granted : Store.reading tokenOf ((tokenRequest c).response? responses) = .ok token) :
    ((acquireToken c).andThen fun token => request token path pageSize read).run responses =
      let get := dataRequest token path pageSize
      let later := (tokenRequest c).laterResponses responses
      ⟨Store.reading read (get.response? later), [(.token, tokenRequest c), (.data, get)],
        [.tokenRequests, .dataRequests], get.laterResponses later⟩ := by
  have went : ((acquireToken c).run responses).outcome = .ok token := by
    rw [run_acquireToken, granted]
  rw [Dialogue.run_andThen_of_ok went, run_acquireToken, run_request]
  simp only [Dialogue.Run.followedBy, List.cons_append, List.nil_append]

end RemoteService

/-! ## The document store -/

namespace DocumentStore

variable {c : Connection} {now : Instant} {m : EntityMetadata} {statement : String}
  {paging : Option Paging}

/-- A request cannot be signed exactly if the key is no Base64. -/
theorem authorization?_eq_none {verb type id date key : String} :
    authorization? verb type id date key = none ↔ Text.Base64.decode? key = none := by
  simp [authorization?]

/-- If the key is no Base64, nothing is attempted. -/
theorem execute_of_unreadableKey (unreadable : Text.Base64.decode? c.key = none) :
    execute c now m statement paging = .ended (.error .invalidKey) := by
  simp only [execute, authorization?_eq_none.mpr unreadable]

/-- With a key, the statement is sent. -/
theorem run_execute {authorization : String}
    (signed : authorization? "POST" resourceType (c.resourceId m.externalCollectionName)
      now.headerDate c.key = some authorization) (responses : List (Option Http.Response)) :
    (execute c now m statement paging).run responses =
      let post :=
        queryRequest c m.externalCollectionName authorization now.headerDate statement paging
      ⟨Store.reading (pageOf m) (post.response? responses), [(.data, post)], [.dataRequests],
        post.laterResponses responses⟩ := by
  simp only [execute, signed, Dialogue.run_send, Dialogue.run_count, Dialogue.run_ended,
    Dialogue.Run.counting, Dialogue.Run.after]

end DocumentStore

end EntityGateway
