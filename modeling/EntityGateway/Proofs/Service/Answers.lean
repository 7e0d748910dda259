import EntityGateway.Proofs.Service.RequestOrder

/-!
# What answers are read from

Every call that is answered is answered from one response, the one that its request for data met
with. `answered_answer` says so for both kinds of calls and stores: either there is such a response
and the outcome is what the store reads it as, or there is none and the call fails.
-/

namespace EntityGateway

open Dialogue (Run)

/-- The response to the request for data, if this was sent and met with one. Requests that are sent
meet with the responses one after the other. -/
def Dialogue.Run.dataResponse? {ε α : Type} (run : Run ε α)
    (responses : List (Option Http.Response)) : Option Http.Response :=
  (run.sent.findIdx? fun attempt => attempt.1 = .data).bind fun place => responses[place]?.join

/-- How a call is answered. -/
inductive Answered (c : Configuration) (call : Call) (responses : List (Option Http.Response))
    (run : Run ServiceError Answer) : Prop
  /-- There is nothing to read, and the call fails. -/
  | unread {e : ServiceError} : run.dataResponse? responses = none → run.outcome = .error e →
      Answered c call responses run
  /-- The response to the request for data is read. -/
  | read {m : EntityMetadata} {response : Http.Response} :
      c.metadata.entity? call.entity = some m → run.dataResponse? responses = some response →
      run.outcome = (call.read c.dataSource m response).mapError .store →
      Answered c call responses run

/-! ## The response among the responses -/

namespace Dialogue.Run

variable {ε α : Type} {outcome : Except ε α} {counted : List Counter}
  {left responses : List (Option Http.Response)} {post get : Http.Request}

theorem dataResponse?_token :
    dataResponse? (⟨outcome, [(.token, post)], counted, left⟩ : Run ε α) responses = none := by
  rw [dataResponse?, sent, sent_single]
  split <;> rfl

theorem dataResponse?_data :
    dataResponse? (⟨outcome, [(.data, post)], counted, left⟩ : Run ε α) responses =
      post.response? responses := by
  rw [dataResponse?, sent, sent_single, Http.Request.response?]
  split
  · rw [List.head?_eq_getElem?]
    rfl
  · rfl

/-- A request that is sent after another one meets with the second response. -/
theorem dataResponse?_tokenAndData (sendable : post.isSendable = true) :
    dataResponse? (⟨outcome, [(.token, post), (.data, get)], counted, left⟩ : Run ε α) responses =
      get.response? (post.laterResponses responses) := by
  have sent : sent (⟨outcome, [(.token, post), (.data, get)], counted, left⟩ : Run ε α) =
      (.token, post) :: if get.isSendable then [(.data, get)] else [] := by
    rw [Run.sent, List.filter_cons, if_pos sendable, sent_single]
  rw [dataResponse?, sent, Http.Request.response?, Http.Request.laterResponses, if_pos sendable]
  split
  · rw [List.head?_eq_getElem?, List.getElem?_tail]
    rfl
  · rfl

end Dialogue.Run

/-! ## Every call -/

theorem map_mapError_comm {ε ε' α β : Type} (f : α → β) (g : ε → ε') (x : Except ε α) :
    (x.mapError g).map f = (x.map f).mapError g := by
  cases x <;> rfl

namespace Service

/-- What was read from the response to the request for data is the answer, if there was one. -/
theorem answered_of_reading {c : Configuration} {call : Call}
    {responses : List (Option Http.Response)} {run : Run ServiceError Answer} {m : EntityMetadata}
    {α : Type} (read : Http.Response → Except StoreError α) (f : α → Answer)
    {response? : Option Http.Response} (described : c.metadata.entity? call.entity = some m)
    (reads : ∀ response, (read response).map f = call.read c.dataSource m response)
    (met : run.dataResponse? responses = response?)
    (outcome : run.outcome = ((Store.reading read response?).mapError .store).map f) :
    Answered c call responses run := by
  cases response? with
  | none => exact .unread met outcome
  | some response =>
      refine .read described met (outcome.trans ?_)
      rw [Store.reading, map_mapError_comm, reads]

/-- Every call is answered from the response to its request for data, or fails without one. -/
theorem answered_answer (s : Service) (x : Exchange) :
    Answered s.configuration x.call x.responses (s.answer x).1 := by
  obtain ⟨call, now, responses⟩ := x
  change Answered s.configuration call responses _
  have checked := s.configuration.checked call
  generalize s.configuration.refusal? call = refusal at checked
  cases checked with
  | unknown unknown =>
      rw [answer_of_unknown unknown]
      exact .unread rfl rfl
  | noStatement described source compiled =>
      rw [answer_of_noStatement described source compiled]
      exact .unread rfl rfl
  | noKey described source compiled unreadable =>
      rw [answer_of_statement described source compiled,
        DocumentStore.execute_of_unreadableKey unreadable]
      exact .unread rfl rfl
  | @statement connection m select described source compiled readable =>
      obtain ⟨authorization, signed⟩ : ∃ authorization, DocumentStore.authorization? "POST"
          DocumentStore.resourceType (connection.resourceId m.externalCollectionName)
          now.headerDate connection.key = some authorization :=
        Option.ne_none_iff_exists'.mp (mt DocumentStore.authorization?_eq_none.mp readable)
      rw [answer_of_signedStatement described source compiled signed]
      have reads (response : Http.Response) : (DocumentStore.pageOf m response).map call.answerOf =
          call.read s.configuration.dataSource m response := by
        rw [source]
        cases call <;> rfl
      exact answered_of_reading (DocumentStore.pageOf m) call.answerOf described reads
        Run.dataResponse?_data (by dsimp only)
  | noPath described source compiled =>
      rw [answer_of_noPath source described compiled]
      exact .unread rfl rfl
  | longPath described source compiled long =>
      rw [answer_of_longPath source described compiled long]
      exact .unread rfl rfl
  | @path connection m path described source compiled short =>
      obtain ⟨α, pageSize, read, f, reads, told⟩ :=
        answer_of_path source now responses described compiled short
      rw [told]
      cases granted : Store.reading RemoteService.tokenOf
          ((RemoteService.tokenRequest connection).response? responses) with
      | error e =>
          rw [RemoteService.run_of_noToken granted, Run.settled_map]
          exact .unread Run.dataResponse?_token rfl
      | ok token =>
          obtain ⟨response, received, -⟩ := RemoteService.response_of_token granted
          have sendable := (Http.Request.sendable_of_response? received).1
          rw [RemoteService.run_of_token granted, Run.settled_map]
          exact answered_of_reading read f described (source.symm ▸ reads)
            (Run.dataResponse?_tokenAndData sendable) (by dsimp only)

end Service

end EntityGateway
