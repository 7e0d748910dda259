import EntityGateway.Proofs.DocumentStore.Headers
import EntityGateway.Proofs.RemoteService.PagingCookie
import EntityGateway.Proofs.Service.RequestOrder

/-!
# Continuing from page to page

A page that is answered with a cookie is continued by asking the same query with the cookie. Nothing
but the continuation changes then: the call passes the checks that it has passed before, except that
the address may have become too long. `continued_of_answered` says that the store is handed the
cookie, or the call fails openly before it asks for data. The remote service must not have named an
empty cookie: such a cookie is answered, but it is taken for none when it comes back, and the first
page is asked for again (`answer_emptyCookie`).
-/

namespace EntityGateway

open Dialogue (Run)

/-- The query for the page that a cookie stands for. -/
def Query.continuedBy (q : Query) (number size : UInt32) (cookie : String) : Query :=
  { q with paging := some ⟨number, size, some cookie⟩ }

/-- The cookie in the answer. -/
def Dialogue.Run.pagingCookie? (run : Run ServiceError Answer) : Option String :=
  match run.outcome with
  | .ok (.page collection) => collection.pagingCookie
  | _ => none

/-- What a call does that continues with a cookie. -/
inductive Continued (c : Configuration) (number : UInt32) (cookie : String)
    (responses : List (Option Http.Response)) : Run ServiceError Answer → Prop
  /-- The document store is sent the cookie in a header. -/
  | header {connection : DocumentStore.Connection} {post : Http.Request}
      {run : Run ServiceError Answer} :
      c.dataSource = .documentStore connection → run.sent = [(.data, post)] →
      (DocumentStore.continuationHeader, cookie) ∈ post.headers →
      Continued c number cookie responses run
  /-- The remote service is asked for the data with the cookie among the options. If this cannot be
  sent to where the token leads, the call fails. -/
  | option {connection : RemoteService.Connection} {get : Http.Request} {root : String}
      {options : OData.Options} {run : Run ServiceError Answer} :
      c.dataSource = .remoteService connection →
      run.attempted = [(.token, RemoteService.tokenRequest connection), (.data, get)] →
      get.url = root ++ "?" ++ options.queryString →
      options.skipToken = some ⟨number, cookie⟩ →
      (get.isSendable = false → run.outcome = .error (.store .unanswered)) →
      Continued c number cookie responses run
  /-- The remote service gives no token, and the call fails for that. -/
  | noToken {connection : RemoteService.Connection} {e : StoreError}
      {run : Run ServiceError Answer} :
      c.dataSource = .remoteService connection →
      Store.reading RemoteService.tokenOf
        ((RemoteService.tokenRequest connection).response? responses) = .error e →
      run.outcome = .error (.store e) →
      run.attempted = [(.token, RemoteService.tokenRequest connection)] →
      Continued c number cookie responses run
  /-- With the cookie the address has become too long, and the call says so. -/
  | tooLong {connection : RemoteService.Connection} {length : Nat}
      {run : Run ServiceError Answer} :
      c.dataSource = .remoteService connection → c.maxUrlLength.toNat < length →
      run.IsRefusal (.tooLong length c.maxUrlLength) → Continued c number cookie responses run

/-! ## What changes with the continuation -/

/-- The page that is asked for is no part of a statement. -/
theorem Sql.ofQuery_continuedBy (m : EntityMetadata) (q : Query) (number size : UInt32)
    (cookie : String) : Select.ofQuery m (q.continuedBy number size cookie) = Select.ofQuery m q :=
  rfl

/-- Going on with a cookie changes nothing in the options but the continuation. -/
theorem OData.ofQuery_continuedBy {m : EntityMetadata} {q : Query} {o : Options}
    (compiled : Options.ofQuery m q = .ok o) {cookie : String} (given : cookie ≠ "")
    (number size : UInt32) :
    Options.ofQuery m (q.continuedBy number size cookie) =
      .ok { o with skipToken := some ⟨number, cookie⟩ } := by
  obtain ⟨select, selected, compiled⟩ := ok_of_bind_eq_ok compiled
  obtain ⟨order, ordered, compiled⟩ := ok_of_bind_eq_ok compiled
  obtain ⟨filter, filtered, compiled⟩ := ok_of_bind_eq_ok compiled
  obtain rfl := Except.ok.inj compiled
  simp only [Options.ofQuery, Query.continuedBy, selected, ordered, filtered,
    RemoteService.skipTokenOf_of_cookie given]
  rfl

theorem OData.Options.queryString_ne_empty (o : Options) : o.queryString ≠ "" := by
  intro empty
  have nothing := congrArg String.toList empty
  rw [queryString, Text.formPairs, String.toList_ofList, pairs, List.map_cons, Text.separated,
    List.append_assoc] at nothing
  exact absurd (List.append_eq_nil_iff.mp nothing).1 (by decide)

theorem RemoteService.collectionPath_queryString (collection : String) (o : OData.Options) :
    collectionPath collection o.queryString =
      apiPath ++ "/" ++ collection ++ "?" ++ o.queryString := by
  rw [collectionPath]
  exact if_neg (mt String.isEmpty_iff.mp o.queryString_ne_empty)

/-- The cookie of a page is the continuation that the store named. -/
theorem DocumentStore.pagingCookie_of_pageOf {m : EntityMetadata} {response : Http.Response}
    {collection : EntityCollection} (read : pageOf m response = .ok collection) :
    collection.pagingCookie = continuation? response := by
  unfold pageOf at read
  split_ifs at read
  split at read
  · cases read
  · split at read
    · cases read
    · cases read
      rfl

/-- A cookie is handed over as it is, in a header of its own. -/
theorem DocumentStore.mem_pagingHeaders {number size : UInt32} {cookie : String}
    (given : cookie.isEmpty = false) :
    (continuationHeader, cookie) ∈ pagingHeaders (some ⟨number, size, some cookie⟩) := by
  simp only [pagingHeaders, given]
  exact List.mem_append_right _ List.mem_cons_self

/-! ## The next call -/

namespace Service

variable {s s' : Service} {q : Query} {now now' : Instant}
  {responses responses' : List (Option Http.Response)} {cookie : String}

/-- A call with a cookie was answered with a page. -/
theorem outcome_of_pagingCookie? {run : Run ServiceError Answer}
    (named : run.pagingCookie? = some cookie) :
    ∃ collection, run.outcome = .ok (.page collection) ∧ collection.pagingCookie = some cookie := by
  unfold Run.pagingCookie? at named
  split at named
  · next collection answered => exact ⟨collection, answered, named⟩
  · cases named

theorem refusal?_of_ok {x : Exchange} {answer : Answer}
    (answered : (s.answer x).1.outcome = .ok answer) : s.configuration.refusal? x.call = none := by
  cases refused : s.configuration.refusal? x.call with
  | none => rfl
  | some e => cases (isRefusal_of_refusal? refused).cause.symm.trans answered

/-- A page is read from a response. -/
theorem response_of_page {m : EntityMetadata} {response? : Option Http.Response}
    {collection : EntityCollection}
    (answered : ((Store.reading (DocumentStore.pageOf m) response?).mapError
      ServiceError.store).map (Call.page q).answerOf = .ok (.page collection)) :
    ∃ response, response? = some response ∧ DocumentStore.pageOf m response = .ok collection := by
  cases response? with
  | none => cases answered
  | some response =>
      refine ⟨response, rfl, ?_⟩
      cases read : DocumentStore.pageOf m response with
      | error e => rw [Store.reading, read] at answered; cases answered
      | ok page => rw [Store.reading, read] at answered; cases answered; rfl

/-- The document store is handed the cookie in the next call. -/
theorem continued_of_documents {connection : DocumentStore.Connection}
    (source : s.configuration.dataSource = .documentStore connection)
    (named : (s.answer ⟨.page q, now, responses⟩).1.pagingCookie? = some cookie)
    (same : s'.configuration = s.configuration) (number size : UInt32) :
    Continued s.configuration number cookie responses'
      (s'.answer ⟨.page (q.continuedBy number size cookie), now', responses'⟩).1 := by
  obtain ⟨collection, answered, cookieOf⟩ := outcome_of_pagingCookie? named
  have checked := s.configuration.checked (.page q)
  rw [refusal?_of_ok answered] at checked
  cases checked with
  | path _ other => cases source.symm.trans other
  | @statement connection m select described source' compiled readable =>
      cases source.symm.trans source'
      obtain ⟨keyBytes, decoded⟩ := Option.ne_none_iff_exists'.mp readable
      have signed (date : String) : DocumentStore.authorization? "POST" DocumentStore.resourceType
          (connection.resourceId m.externalCollectionName) date connection.key = some _ :=
        congrArg (Option.map _) decoded
      rw [answer_of_signedStatement described source compiled (signed now.headerDate)] at answered
      dsimp only at answered
      obtain ⟨response, received, read⟩ := response_of_page answered
      -- The first call was answered, so the address of the collection has a host.
      have reachable := (Bool.and_eq_true_iff.mp
        (Http.Request.sendable_of_response? received).1).1
      obtain ⟨given, text⟩ := DocumentStore.cookie_of_continuation?
        ((DocumentStore.pagingCookie_of_pageOf read).symm.trans cookieOf)
      have sendable := DocumentStore.isSendable_queryRequest (signed now'.headerDate) reachable text
        select.text now' number size
      have described' : s'.configuration.metadata.entity?
          (Call.page (q.continuedBy number size cookie)).entity = some m := same.symm ▸ described
      have compiled' := (Sql.ofQuery_continuedBy m q number size cookie).trans compiled
      rw [answer_of_signedStatement described' (same.symm ▸ source) compiled' (signed _)]
      refine .header source ((sent_single _ _).trans (if_pos sendable)) ?_
      exact List.mem_append_right _ (DocumentStore.mem_pagingHeaders given)

/-- The remote service is handed the cookie in the next call, unless it is empty. -/
theorem continued_of_remoteService {connection : RemoteService.Connection}
    (source : s.configuration.dataSource = .remoteService connection)
    (named : (s.answer ⟨.page q, now, responses⟩).1.pagingCookie? = some cookie)
    (given : cookie ≠ "") (same : s'.configuration = s.configuration) (number size : UInt32) :
    Continued s.configuration number cookie responses'
      (s'.answer ⟨.page (q.continuedBy number size cookie), now', responses'⟩).1 := by
  obtain ⟨collection, answered, -⟩ := outcome_of_pagingCookie? named
  have checked := s.configuration.checked (.page q)
  rw [refusal?_of_ok answered] at checked
  cases checked with
  | statement _ other => cases source.symm.trans other
  | @path connection' m path described source' compiled short =>
      obtain ⟨options, written, -⟩ := ok_of_map_eq_ok compiled
      obtain ⟨options', written', continuation⟩ : ∃ options',
          OData.Options.ofQuery m (q.continuedBy number size cookie) = .ok options' ∧
            options'.skipToken = some ⟨number, cookie⟩ :=
        ⟨_, OData.ofQuery_continuedBy written given number size, rfl⟩
      have compiled' : (Call.page (q.continuedBy number size cookie)).path m =
          .ok (RemoteService.collectionPath m.externalCollectionName options'.queryString) :=
        congrArg (Except.map _) written'
      obtain ⟨long, refused⟩ | ⟨e, denied, failed, attempted⟩ |
          ⟨token, pageSize, -, attempted, unsent⟩ :=
        attempted_of_path (s := s')
          (x := ⟨.page (q.continuedBy number size cookie), now', responses'⟩)
          (same.symm ▸ source) (same.symm ▸ described) compiled'
      · rw [same] at long refused
        exact .tooLong source (of_decide_eq_true long) refused
      · exact .noToken source denied failed attempted
      · have url : Text.withoutSlashes token.resource ++
            RemoteService.collectionPath m.externalCollectionName options'.queryString =
              Text.withoutSlashes token.resource ++
                (RemoteService.apiPath ++ "/" ++ m.externalCollectionName) ++ "?" ++
                  options'.queryString := by
          rw [RemoteService.collectionPath_queryString]
          simp only [String.append_assoc]
        exact .option source attempted url continuation unsent

/-- A cookie that is answered is handed to the store by the next call, or this call fails openly
before it asks for data. The remote service must not have named an empty cookie. -/
theorem continued_of_answered
    (named : (s.answer ⟨.page q, now, responses⟩).1.pagingCookie? = some cookie)
    (given : ∀ connection, s.configuration.dataSource = .remoteService connection → cookie ≠ "")
    (same : s'.configuration = s.configuration) (number size : UInt32) :
    Continued s.configuration number cookie responses'
      (s'.answer ⟨.page (q.continuedBy number size cookie), now', responses'⟩).1 := by
  cases source : s.configuration.dataSource with
  | documentStore connection => exact continued_of_documents source named same number size
  | remoteService connection =>
      exact continued_of_remoteService source named (given connection source) same number size

/-- A service in front of a remote store. -/
def pagedShelf : Service where
  configuration := {
    dataSource := .remoteService ⟨"https://s.example", "u", "p", "https://t.example", "c"⟩
    metadata := .ofEntities [RemoteService.shelfEntity]
    maxUrlLength := 2048 }

/-- The responses to a call for a page: a token, and no records with a link to the next page. -/
def linkTo (link : String) : List (Option Http.Response) := [
  some ⟨⟨200⟩, [], (Json.object [("access_token", .string "a"),
    ("resource", .string "https://s.example/")]).compact⟩,
  some ⟨⟨200⟩, [], (Json.object [("value", .array []), ("@odata.nextLink", .string link)]).compact⟩]

/-- A page whose cookie looks like an escape, and the call for the next one. -/
theorem continued_of_pagedShelf :
    (pagedShelf.answer ⟨.page { entity := "book" }, ⟨0, 0, by decide, by decide⟩,
      linkTo "?pagingcookie=%27a%2520b%27"⟩).1.pagingCookie? = some "a%20b" ∧
    Continued pagedShelf.configuration 2 "a%20b" (linkTo "?")
      (pagedShelf.answer ⟨.page (Query.continuedBy { entity := "book" } 2 10 "a%20b"),
        ⟨0, 0, by decide, by decide⟩, linkTo "?"⟩).1 := by
  have named : (pagedShelf.answer ⟨.page { entity := "book" }, ⟨0, 0, by decide, by decide⟩,
      linkTo "?pagingcookie=%27a%2520b%27"⟩).1.pagingCookie? = some "a%20b" := by decide +kernel
  exact ⟨named, continued_of_answered named (fun _ _ => by decide) rfl 2 10⟩

/-- The remote service is asked for the first page again if the cookie is empty. -/
theorem answer_emptyCookie {connection : RemoteService.Connection}
    (source : s.configuration.dataSource = .remoteService connection) (q : Query)
    (number size : UInt32) :
    s.answer ⟨.page (q.continuedBy number size ""), now, responses⟩ =
      s.answer ⟨.page { q with paging := some ⟨1, size, none⟩ }, now, responses⟩ := by
  simp only [answer, getEntities, Service.call, Configuration.getEntities, source]
  rfl

/-- The remote service names an empty cookie, which is answered. The next call, with this cookie,
sends what the first call has sent, so that the first page is answered for ever. -/
theorem answer_emptyCookie_pagedShelf :
    let first : Query := { entity := "book", paging := some ⟨1, 10, none⟩ }
    let run := (pagedShelf.answer ⟨.page first, ⟨0, 0, by decide, by decide⟩,
      linkTo "?pagingcookie=%27%27"⟩).1
    let next := (pagedShelf.answer ⟨.page (first.continuedBy 2 10 ""),
      ⟨0, 0, by decide, by decide⟩, linkTo "?pagingcookie=%27%27"⟩).1
    run.pagingCookie? = some "" ∧ run.sent.length = 2 ∧ next = run := by
  refine ⟨by decide +kernel, by decide +kernel, ?_⟩
  exact congrArg Prod.fst (answer_emptyCookie rfl { entity := "book" } 2 10)

end Service

end EntityGateway
