import EntityGateway.Proofs.Outcome
import EntityGateway.Proofs.Service.Dialogues
import EntityGateway.Service.Basic

/-!
# What calls do

A service answers two kinds of calls from two kinds of stores. `Configuration.refusal?` names the
first of the checks that a call fails before anything is sent. `Course` lists all that a call can do
then: it is refused, it sends a statement to the document store, it gets no token from the remote
service, or it gets one and asks for the data. `answer_course` says that nothing else happens; what
requests are sent and what is counted are read off it.
-/

namespace EntityGateway

open Dialogue (Run)

/-- A call to a service. -/
inductive Call where
  | page (q : Query)
  | record (r : EntityReference)

/-- What a call is answered with. -/
inductive Answer where
  | page (collection : EntityCollection)
  | record (entity : Option Entity)

namespace Call

/-- The logical name of the entity that a call is about. -/
def entity : Call → String
  | page q => q.entity
  | record r => r.logicalName

/-- The query that a call to the document store comes down to. -/
def query (m : EntityMetadata) : Call → Query
  | page q => q
  | record r => Configuration.queryFor r m.primaryIdAttribute

/-- The path that a call to the remote service asks for, from the root of the service. -/
def path (m : EntityMetadata) : Call → Except CompileError String
  | page q =>
    (OData.Options.ofQuery m q).map fun options =>
      RemoteService.collectionPath m.externalCollectionName options.queryString
  | record r => .ok (RemoteService.entityPath m.externalCollectionName r.id)

/-- The path is too long for the limit on queries. Paths of single records are not limited. -/
def isTooLong (limit : UInt64) (path : String) : Call → Bool
  | page _ => limit.toNat < path.utf8ByteSize
  | record _ => false

/-- The answer to a call that a page of the document store gives. -/
def answerOf : Call → EntityCollection → Answer
  | page _, collection => .page collection
  | record _, collection => .record collection.entities.head?

/-- What a response to the request for data is read as, by the store that it is from. -/
def read (call : Call) (source : DataSource) (m : EntityMetadata) (response : Http.Response) :
    Except StoreError Answer :=
  match source, call with
  | .documentStore _, call => (DocumentStore.pageOf m response).map call.answerOf
  | .remoteService _, .page _ => (RemoteService.pageOf m response).map .page
  | .remoteService _, .record _ => (RemoteService.recordOf m response).map .record

end Call

/-! ## The checks before the first request -/

/-- The first check that a call fails before anything is sent: the entity must be described and the
query must compile; a path to the remote service must not be too long, and the key of the document
store must be readable. -/
def Configuration.refusal? (c : Configuration) (call : Call) : Option ServiceError :=
  match c.metadata.entity? call.entity with
  | none => some (.unknownEntity call.entity)
  | some m =>
    match c.dataSource with
    | .documentStore connection =>
      match Sql.Select.ofQuery m (call.query m) with
      | .error cause => some (.uncompilable cause)
      | .ok _ =>
        if Text.Base64.decode? connection.key = none then some (.store .invalidKey) else none
    | .remoteService _ =>
      match call.path m with
      | .error cause => some (.uncompilable cause)
      | .ok path =>
        if call.isTooLong c.maxUrlLength path then
          some (.tooLong path.utf8ByteSize c.maxUrlLength)
        else none

/-- How the checks of a call come out, with what was found on the way. -/
inductive Checked (c : Configuration) (call : Call) : Option ServiceError → Prop
  | unknown : c.metadata.entity? call.entity = none →
      Checked c call (some (.unknownEntity call.entity))
  | noStatement {connection m cause} : c.metadata.entity? call.entity = some m →
      c.dataSource = .documentStore connection →
      Sql.Select.ofQuery m (call.query m) = .error cause →
      Checked c call (some (.uncompilable cause))
  | noKey {connection m select} : c.metadata.entity? call.entity = some m →
      c.dataSource = .documentStore connection →
      Sql.Select.ofQuery m (call.query m) = .ok select →
      Text.Base64.decode? connection.key = none →
      Checked c call (some (.store .invalidKey))
  | statement {connection m select} : c.metadata.entity? call.entity = some m →
      c.dataSource = .documentStore connection →
      Sql.Select.ofQuery m (call.query m) = .ok select →
      Text.Base64.decode? connection.key ≠ none →
      Checked c call none
  | noPath {connection m cause} : c.metadata.entity? call.entity = some m →
      c.dataSource = .remoteService connection →
      call.path m = .error cause →
      Checked c call (some (.uncompilable cause))
  | longPath {connection m path} : c.metadata.entity? call.entity = some m →
      c.dataSource = .remoteService connection →
      call.path m = .ok path → call.isTooLong c.maxUrlLength path = true →
      Checked c call (some (.tooLong path.utf8ByteSize c.maxUrlLength))
  | path {connection m path} : c.metadata.entity? call.entity = some m →
      c.dataSource = .remoteService connection →
      call.path m = .ok path → call.isTooLong c.maxUrlLength path = false →
      Checked c call none

theorem Configuration.checked (c : Configuration) (call : Call) :
    Checked c call (c.refusal? call) := by
  unfold refusal?
  cases described : c.metadata.entity? call.entity with
  | none => exact .unknown described
  | some m =>
      cases source : c.dataSource with
      | documentStore connection =>
          cases compiled : Sql.Select.ofQuery m (call.query m) with
          | error cause => simpa [compiled] using .noStatement described source compiled
          | ok select =>
              by_cases unreadable : Text.Base64.decode? connection.key = none
              · simpa [compiled, unreadable] using .noKey described source compiled unreadable
              · simpa [compiled, unreadable] using .statement described source compiled unreadable
      | remoteService connection =>
          cases compiled : call.path m with
          | error cause => simpa [compiled] using .noPath described source compiled
          | ok path =>
              cases long : call.isTooLong c.maxUrlLength path with
              | true => simpa [compiled, long] using .longPath described source compiled long
              | false => simpa [compiled, long] using .path described source compiled long

/-! ## Sequences of calls -/

/-- A call, the time at which it is made, and the responses that its requests meet with. -/
structure Exchange where
  call : Call
  now : Instant
  responses : List (Option Http.Response)

/-- The same run with another form of the result. -/
def Dialogue.Run.map {ε α β : Type} (f : α → β) (run : Run ε α) : Run ε β :=
  run.withOutcome (run.outcome.map f)

theorem Dialogue.Run.map_map {ε α β γ : Type} (g : β → γ) (f : α → β) (run : Run ε α) :
    (run.map f).map g = run.map (g ∘ f) := by
  simp only [map, withOutcome, Run.mk.injEq, and_true]
  cases run.outcome <;> rfl

namespace Service

/-- Answers a call of either kind. -/
def answer (s : Service) (x : Exchange) : Run ServiceError Answer × Service :=
  match x.call with
  | .page q =>
    let (run, s') := s.getEntities x.now q x.responses
    (run.map .page, s')
  | .record r =>
    let (run, s') := s.getEntity x.now r x.responses
    (run.map .record, s')

/-- Answers calls one after the other. -/
def answerAll (s : Service) : List Exchange → List (Run ServiceError Answer) × Service
  | [] => ([], s)
  | x :: xs =>
    let (run, s') := s.answer x
    let (runs, s'') := s'.answerAll xs
    (run :: runs, s'')

end Service

/-! ## Calls as dialogues -/

/-- What a call counts in the end. -/
def Counter.settled (success : Bool) : Counter :=
  if success then .succeeded else .failed

/-- The run of a call whose dialogue with a store ran like this. -/
def Dialogue.Run.settled {α : Type} (run : Run StoreError α) : Run ServiceError α where
  outcome := run.outcome.mapError .store
  attempted := run.attempted
  counted := run.counted ++ [.settled run.succeeded]
  left := run.left

namespace Dialogue

variable {ε α β : Type}

theorem Run.settled_map (f : α → β) (outcome : Except StoreError α)
    (attempted : List (Purpose × Http.Request)) (counted : List Counter)
    (left : List (Option Http.Response)) :
    (Run.settled ⟨outcome, attempted, counted, left⟩).map f =
      let outcome := (outcome.mapError ServiceError.store).map f
      ⟨outcome, attempted, counted ++ [.settled outcome.isOk], left⟩ := by
  cases outcome <;> rfl

theorem run_settled (d : Dialogue StoreError α) (responses : List (Option Http.Response)) :
    d.ofStore.countSuccess.countFailure.run responses = (d.run responses).settled := by
  rw [run_countFailure, run_countSuccess, ofStore, run_mapOutcome]
  cases outcome : (d.run responses).outcome <;>
    simp [Run.settled, Run.withOutcome, Run.succeeded, Counter.settled, outcome, Except.mapError,
      Except.isOk, Except.toBool]

theorem run_countFailure_mapOutcome (f : α → β) (d : Dialogue ε α)
    (responses : List (Option Http.Response)) :
    (d.mapOutcome fun outcome => outcome.map f).countFailure.run responses =
      (d.countFailure.run responses).map f := by
  rw [run_countFailure, run_countFailure, run_mapOutcome]
  cases outcome : (d.run responses).outcome <;>
    simp [Run.map, Run.withOutcome, Run.succeeded, outcome, Except.map, Except.isOk, Except.toBool]

end Dialogue

namespace Service

variable {s : Service} {now : Instant} {responses : List (Option Http.Response)}
  {m : EntityMetadata}

/-- A call about an entity that is not described. -/
theorem answer_of_unknown {call : Call}
    (unknown : s.configuration.metadata.entity? call.entity = none) :
    (s.answer ⟨call, now, responses⟩).1 =
      ⟨.error (.unknownEntity call.entity), [], [.failed], responses⟩ := by
  cases call with
  | page q =>
      have unknown : s.configuration.metadata.entity? q.entity = none := unknown
      cases source : s.configuration.dataSource <;>
        simp only [answer, getEntities, Service.call, Configuration.getEntities, source,
          Configuration.queryDocuments, Configuration.queryService, Configuration.withEntity,
          unknown] <;> rfl
  | record r =>
      have unknown : s.configuration.metadata.entity? r.logicalName = none := unknown
      simp only [answer, getEntity, Service.call, Configuration.getEntity,
        Configuration.withEntity, unknown]
      rfl

section Documents

variable {call : Call} {connection : DocumentStore.Connection}
  (described : s.configuration.metadata.entity? call.entity = some m)
  (source : s.configuration.dataSource = .documentStore connection)

include described source

/-- A call to the document store is a query whose page answers it. -/
theorem answer_of_documents :
    (s.answer ⟨call, now, responses⟩).1 =
      ((s.configuration.queryDocuments connection now (call.query m)).countFailure.run
        responses).map call.answerOf := by
  cases call with
  | page q => simp only [answer, getEntities, Service.call, Configuration.getEntities, source]; rfl
  | record r =>
      have described : s.configuration.metadata.entity? r.logicalName = some m := described
      simp only [answer, getEntity, Service.call, Configuration.getEntity,
        Configuration.withEntity, source, described, Dialogue.run_countFailure_mapOutcome,
        Dialogue.Run.map_map]
      rfl

theorem answer_of_noStatement {cause : CompileError}
    (compiled : Sql.Select.ofQuery m (call.query m) = .error cause) :
    (s.answer ⟨call, now, responses⟩).1 =
      ⟨.error (.uncompilable cause), [], [.failed], responses⟩ := by
  have described' : s.configuration.metadata.entity? (call.query m).entity = some m := by
    cases call <;> exact described
  rw [answer_of_documents described source]
  simp only [Configuration.queryDocuments, Configuration.withEntity, described', compiled]
  rfl

/-- A call to the document store that compiles is the statement. -/
theorem answer_of_statement {select : Sql.Select}
    (compiled : Sql.Select.ofQuery m (call.query m) = .ok select) :
    (s.answer ⟨call, now, responses⟩).1 =
      ((DocumentStore.execute connection now m select.text (call.query m).paging).run
        responses).settled.map call.answerOf := by
  have described' : s.configuration.metadata.entity? (call.query m).entity = some m := by
    cases call <;> exact described
  rw [answer_of_documents described source]
  simp only [Configuration.queryDocuments, Configuration.withEntity, described', compiled,
    Dialogue.run_settled]

/-- A statement that can be signed is sent, and the response to it is the answer. -/
theorem answer_of_signedStatement {select : Sql.Select}
    (compiled : Sql.Select.ofQuery m (call.query m) = .ok select) {authorization : String}
    (signed : DocumentStore.authorization? "POST" DocumentStore.resourceType
      (connection.resourceId m.externalCollectionName) now.headerDate connection.key =
        some authorization) :
    (s.answer ⟨call, now, responses⟩).1 =
      let post := DocumentStore.queryRequest connection m.externalCollectionName authorization
        now.headerDate select.text (call.query m).paging
      let outcome := ((Store.reading (DocumentStore.pageOf m) (post.response? responses)).mapError
        ServiceError.store).map call.answerOf
      ⟨outcome, [(.data, post)], [.dataRequests, .settled outcome.isOk],
        post.laterResponses responses⟩ := by
  rw [answer_of_statement described source compiled, DocumentStore.run_execute signed,
    Run.settled_map]
  rfl

end Documents

section RemoteService

variable {connection : RemoteService.Connection}
  (source : s.configuration.dataSource = .remoteService connection)

include source

theorem answer_of_noPath {call : Call} {cause : CompileError}
    (described : s.configuration.metadata.entity? call.entity = some m)
    (compiled : call.path m = .error cause) :
    (s.answer ⟨call, now, responses⟩).1 =
      ⟨.error (.uncompilable cause), [], [.failed], responses⟩ := by
  cases call with
  | page q =>
      have described : s.configuration.metadata.entity? q.entity = some m := described
      have compiled : OData.Options.ofQuery m q = .error cause := by
        cases options : OData.Options.ofQuery m q with
        | error cause' => rw [Call.path, options] at compiled; cases compiled; rfl
        | ok options' => rw [Call.path, options] at compiled; cases compiled
      simp only [answer, getEntities, Service.call, Configuration.getEntities, source,
        Configuration.queryService, Configuration.withEntity, described, compiled]
      rfl
  | record r => cases compiled

theorem answer_of_longPath {call : Call} {path : String}
    (described : s.configuration.metadata.entity? call.entity = some m)
    (compiled : call.path m = .ok path)
    (long : call.isTooLong s.configuration.maxUrlLength path = true) :
    (s.answer ⟨call, now, responses⟩).1 =
      ⟨.error (.tooLong path.utf8ByteSize s.configuration.maxUrlLength), [], [.failed],
        responses⟩ := by
  cases call with
  | page q =>
      have described : s.configuration.metadata.entity? q.entity = some m := described
      obtain ⟨options, written, rfl⟩ := ok_of_map_eq_ok compiled
      have long := of_decide_eq_true long
      simp only [answer, getEntities, Service.call, Configuration.getEntities, source,
        Configuration.queryService, Configuration.withEntity, described, written, if_pos long]
      rfl
  | record r => cases long

/-- A call to the remote service whose path can be asked for is the request for it, under a token.
-/
theorem answer_of_path (now : Instant) (responses : List (Option Http.Response)) {call : Call}
    {path : String}
    (described : s.configuration.metadata.entity? call.entity = some m)
    (compiled : call.path m = .ok path)
    (short : call.isTooLong s.configuration.maxUrlLength path = false) :
    ∃ (α : Type) (pageSize : Option UInt32) (read : Http.Response → Except StoreError α)
      (f : α → Answer),
      (∀ response, (read response).map f = call.read (.remoteService connection) m response) ∧
      (s.answer ⟨call, now, responses⟩).1 =
        (((RemoteService.acquireToken connection).andThen fun token =>
          RemoteService.request token path pageSize read).run responses).settled.map f := by
  cases call with
  | page q =>
      have described : s.configuration.metadata.entity? q.entity = some m := described
      obtain ⟨options, written, rfl⟩ := ok_of_map_eq_ok compiled
      have short := of_decide_eq_false short
      refine ⟨_, q.paging.map Paging.pageSize, RemoteService.pageOf m, .page,
        fun _ => rfl, ?_⟩
      simp only [answer, getEntities, Service.call, Configuration.getEntities, source,
        Configuration.queryService, Configuration.withEntity, described, written, if_neg short,
        RemoteService.execute, Dialogue.run_settled]
  | record r =>
      have described : s.configuration.metadata.entity? r.logicalName = some m := described
      cases compiled
      refine ⟨_, none, RemoteService.recordOf m, .record, fun _ => rfl, ?_⟩
      simp only [answer, getEntity, Service.call, Configuration.getEntity,
        Configuration.withEntity, source, described, RemoteService.retrieve,
        Dialogue.run_settled]

end RemoteService

end Service

/-! ## The courses of a call -/

/-- All that a call can do, by the checks that it passes and the token that it gets. -/
inductive Course (c : Configuration) (call : Call) (responses : List (Option Http.Response)) :
    Run ServiceError Answer → Prop
  /-- The call fails a check, and nothing is attempted. -/
  | refused {e : ServiceError} : c.refusal? call = some e →
      Course c call responses ⟨.error e, [], [.failed], responses⟩
  /-- The statement is sent to the document store. -/
  | statement {connection : DocumentStore.Connection} {post : Http.Request}
      {outcome : Except ServiceError Answer} {left : List (Option Http.Response)} :
      c.refusal? call = none → c.dataSource = .documentStore connection → post.method = .post →
      Course c call responses
        ⟨outcome, [(.data, post)], [.dataRequests, .settled outcome.isOk], left⟩
  /-- The remote service is asked for a token and gives none. -/
  | noToken {connection : RemoteService.Connection} {e : StoreError}
      {left : List (Option Http.Response)} :
      c.refusal? call = none → c.dataSource = .remoteService connection →
      Store.reading RemoteService.tokenOf
        ((RemoteService.tokenRequest connection).response? responses) = .error e →
      Course c call responses
        ⟨.error (.store e), [(.token, RemoteService.tokenRequest connection)],
          [.tokenRequests, .failed], left⟩
  /-- The remote service is asked for a token, and with it for the path of the call. The call fails
  if the address that the token gives cannot be sent to. -/
  | token {connection : RemoteService.Connection} {m : EntityMetadata} {path : String}
      {token : Store.AccessToken} {pageSize : Option UInt32}
      {outcome : Except ServiceError Answer} {left : List (Option Http.Response)} :
      c.refusal? call = none → c.dataSource = .remoteService connection →
      c.metadata.entity? call.entity = some m → call.path m = .ok path →
      Store.reading RemoteService.tokenOf
        ((RemoteService.tokenRequest connection).response? responses) = .ok token →
      ((RemoteService.dataRequest token path pageSize).isSendable = false →
        outcome = .error (.store .unanswered)) →
      Course c call responses
        ⟨outcome, [(.token, RemoteService.tokenRequest connection),
            (.data, RemoteService.dataRequest token path pageSize)],
          [.tokenRequests, .dataRequests, .settled outcome.isOk], left⟩

/-- A call takes one of these courses. -/
theorem Service.answer_course (s : Service) (x : Exchange) :
    Course s.configuration x.call x.responses (s.answer x).1 := by
  obtain ⟨call, now, responses⟩ := x
  change Course s.configuration call responses _
  generalize checks : s.configuration.refusal? call = refusal
  have checked := s.configuration.checked call
  rw [checks] at checked
  cases checked with
  | unknown unknown =>
      rw [answer_of_unknown unknown]
      exact .refused checks
  | noStatement described source compiled =>
      rw [answer_of_noStatement described source compiled]
      exact .refused checks
  | noKey described source compiled unreadable =>
      rw [answer_of_statement described source compiled,
        DocumentStore.execute_of_unreadableKey unreadable]
      exact .refused checks
  | @statement connection m select described source compiled readable =>
      obtain ⟨key, decoded⟩ := Option.ne_none_iff_exists'.mp readable
      have signed : DocumentStore.authorization? "POST" DocumentStore.resourceType
          (connection.resourceId m.externalCollectionName) now.headerDate connection.key =
            some _ :=
        congrArg (Option.map _) decoded
      rw [answer_of_signedStatement described source compiled signed]
      exact .statement checks source rfl
  | noPath described source compiled =>
      rw [answer_of_noPath source described compiled]
      exact .refused checks
  | longPath described source compiled long =>
      rw [answer_of_longPath source described compiled long]
      exact .refused checks
  | @path connection m path described source compiled short =>
      obtain ⟨α, pageSize, read, f, -, told⟩ :=
        answer_of_path source now responses described compiled short
      rw [told]
      cases granted : Store.reading RemoteService.tokenOf
          ((RemoteService.tokenRequest connection).response? responses) with
      | error e =>
          rw [RemoteService.run_of_noToken granted, Run.settled_map]
          exact .noToken checks source granted
      | ok token =>
          rw [RemoteService.run_of_token granted, Run.settled_map]
          refine .token checks source described compiled granted fun unsendable => ?_
          rw [Http.Request.response?_of_unsendable unsendable]
          rfl

end EntityGateway
