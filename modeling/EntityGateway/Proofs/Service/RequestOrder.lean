import EntityGateway.Proofs.Service.Calls

/-!
# Checks come before requests

A call that fails a check sends nothing and says which check it was. A call that passes them sends
its requests in the order of the protocol: one statement to the document store; a request for a
token to the remote service, and only under a token that came back the request for data, at the
resource that the token is for. `answer_sent` states this for every call, whatever responses it
meets with.
-/

namespace EntityGateway

open Dialogue (Run)

/-- The call fails with this cause, and not even tries to send anything. -/
structure Dialogue.Run.IsRefusal (run : Run ServiceError Answer) (e : ServiceError) : Prop where
  cause : run.outcome = .error e
  nothing : run.attempted = []

/-- What a call sends to the document store: at most one request, with the statement. -/
inductive SendsStatement : List (Purpose × Http.Request) → Prop
  | nothing : SendsStatement []
  | statement {post : Http.Request} : post.method = .post → SendsStatement [(.data, post)]

/-- What a call sends to the remote service: at most one request to the token endpoint, and at most
one for data after it. The data is asked for only if the first response is one of success and holds
a token, and it is asked for by the path of the call at the resource of the token. -/
inductive SendsUnderToken (c : RemoteService.Connection) (path : String)
    (responses : List (Option Http.Response)) : List (Purpose × Http.Request) → Prop
  | nothing : SendsUnderToken c path responses []
  | token {post : Http.Request} : post.method = .post → post.url = c.tokenEndpoint →
      SendsUnderToken c path responses [(.token, post)]
  | data {post get : Http.Request} {response : Http.Response} {token : Store.AccessToken} :
      post.method = .post → post.url = c.tokenEndpoint →
      responses.head? = some (some response) → response.status.isSuccess = true →
      decodeText Store.AccessToken.decode response.body = .value token →
      get.method = .get → get.url = Text.withoutSlashes token.resource ++ path →
      SendsUnderToken c path responses [(.token, post), (.data, get)]

/-- The requests of an attempt that can be sent. -/
theorem sent_single (purpose : Purpose) (request : Http.Request) :
    ([(purpose, request)].filter fun attempt => attempt.2.isSendable) =
      if request.isSendable then [(purpose, request)] else [] := by
  by_cases sendable : request.isSendable = true <;> simp [sendable]

namespace Service

variable {s : Service} {x : Exchange}

theorem isRefusal_of_refusal? {e : ServiceError}
    (refused : s.configuration.refusal? x.call = some e) : (s.answer x).1.IsRefusal e := by
  have course := s.answer_course x
  generalize (s.answer x).1 = run at course ⊢
  rcases course with refused' | passed | passed | passed
  · cases refused.symm.trans refused'
    exact ⟨rfl, rfl⟩
  all_goals cases refused.symm.trans passed

theorem sendsStatement_of_documents {connection : DocumentStore.Connection}
    (source : s.configuration.dataSource = .documentStore connection) :
    SendsStatement (s.answer x).1.sent := by
  have course := s.answer_course x
  generalize (s.answer x).1 = run at course ⊢
  rcases course with - | ⟨-, -, posts⟩ | ⟨-, other, -⟩ | ⟨-, other, -⟩
  · exact .nothing
  · rw [Run.sent, sent_single]
    split
    · exact .statement posts
    · exact .nothing
  all_goals cases source.symm.trans other

section RemoteService

variable {connection : RemoteService.Connection} {m : EntityMetadata} {path : String}
  (source : s.configuration.dataSource = .remoteService connection)
  (described : s.configuration.metadata.entity? x.call.entity = some m)
  (compiled : x.call.path m = .ok path)

include source described compiled

/-- A call to the remote service is refused for its long path, gets no token, or asks for its path
under a token. -/
theorem attempted_of_path :
    let run := (s.answer x).1
    let asked := Store.reading RemoteService.tokenOf
      ((RemoteService.tokenRequest connection).response? x.responses)
    (x.call.isTooLong s.configuration.maxUrlLength path = true ∧
      run.IsRefusal (.tooLong path.utf8ByteSize s.configuration.maxUrlLength)) ∨
    (∃ e, asked = .error e ∧ run.outcome = .error (.store e) ∧
      run.attempted = [(.token, RemoteService.tokenRequest connection)]) ∨
    ∃ token pageSize, asked = .ok token ∧
      run.attempted = [(.token, RemoteService.tokenRequest connection),
        (.data, RemoteService.dataRequest token path pageSize)] ∧
      ((RemoteService.dataRequest token path pageSize).isSendable = false →
        run.outcome = .error (.store .unanswered)) := by
  cases long : x.call.isTooLong s.configuration.maxUrlLength path with
  | true =>
      have refused : s.configuration.refusal? x.call =
          some (.tooLong path.utf8ByteSize s.configuration.maxUrlLength) := by
        simp only [Configuration.refusal?, described, source, compiled, long, if_true]
      exact .inl ⟨rfl, isRefusal_of_refusal? refused⟩
  | false =>
      have passed : s.configuration.refusal? x.call = none := by
        simp only [Configuration.refusal?, described, source, compiled, long, Bool.false_eq_true,
          if_false]
      have course := s.answer_course x
      generalize (s.answer x).1 = run at course ⊢
      rcases course with refused | ⟨-, other, -⟩ | ⟨-, source', denied⟩ |
        ⟨-, source', described', compiled', granted, unsent⟩
      · cases passed.symm.trans refused
      · cases source.symm.trans other
      · cases source.symm.trans source'
        exact .inr (.inl ⟨_, denied, rfl, rfl⟩)
      · cases source.symm.trans source'
        cases described.symm.trans described'
        cases compiled.symm.trans compiled'
        exact .inr (.inr ⟨_, _, granted, rfl, unsent⟩)

theorem sendsUnderToken_of_remoteService :
    SendsUnderToken connection path x.responses (s.answer x).1.sent := by
  obtain ⟨-, refused⟩ | ⟨e, -, -, attempted⟩ | ⟨token, pageSize, granted, attempted, -⟩ :=
    attempted_of_path source described compiled
  · rw [Run.sent, refused.nothing]
    exact .nothing
  · rw [Run.sent, attempted, sent_single]
    split
    · exact .token rfl rfl
    · exact .nothing
  · obtain ⟨response, answered, success, decoded⟩ := RemoteService.response_of_token granted
    obtain ⟨sendable, first⟩ := Http.Request.sendable_of_response? answered
    rw [Run.sent, attempted, List.filter_cons, if_pos sendable, sent_single]
    split
    · exact .data rfl rfl first success decoded rfl rfl
    · exact .token rfl rfl

end RemoteService

/-- Nothing is sent before all checks have passed, and then the requests are sent in order. -/
theorem answer_sent (s : Service) (x : Exchange) :
    let run := (s.answer x).1
    let c := s.configuration
    match c.metadata.entity? x.call.entity with
    | none => run.IsRefusal (.unknownEntity x.call.entity)
    | some m =>
      match c.dataSource with
      | .documentStore connection =>
        match Sql.Select.ofQuery m (x.call.query m) with
        | .error cause => run.IsRefusal (.uncompilable cause)
        | .ok _ =>
          if Text.Base64.decode? connection.key = none then run.IsRefusal (.store .invalidKey)
          else SendsStatement run.sent
      | .remoteService connection =>
        match x.call.path m with
        | .error cause => run.IsRefusal (.uncompilable cause)
        | .ok path =>
          if x.call.isTooLong c.maxUrlLength path then
            run.IsRefusal (.tooLong path.utf8ByteSize c.maxUrlLength)
          else SendsUnderToken connection path x.responses run.sent := by
  dsimp only
  split
  · next unknown => exact isRefusal_of_refusal? (by simp only [Configuration.refusal?, unknown])
  · next m described =>
      split
      · next connection source =>
          split
          · next cause compiled =>
              refine isRefusal_of_refusal? ?_
              simp only [Configuration.refusal?, described, source, compiled]
          · next select compiled =>
              split_ifs with unreadable
              · refine isRefusal_of_refusal? ?_
                simp only [Configuration.refusal?, described, source, compiled, if_pos unreadable]
              · exact sendsStatement_of_documents source
      · next connection source =>
          split
          · next cause compiled =>
              refine isRefusal_of_refusal? ?_
              simp only [Configuration.refusal?, described, source, compiled]
          · next path compiled =>
              split_ifs with long
              · refine isRefusal_of_refusal? ?_
                simp only [Configuration.refusal?, described, source, compiled, if_pos long]
              · exact sendsUnderToken_of_remoteService source described compiled

end Service

end EntityGateway
