import EntityGateway.Proofs.Json.Decoding
import EntityGateway.Proofs.Service.Accounting
import EntityGateway.Proofs.Service.Answers
import EntityGateway.Proofs.Service.Pages

/-!
# Pages are answered entirely or not at all

A page that comes back from a store holds records, and each of them may be unreadable. Either all
are read and the page has them in their order, with the count and the continuation that the store
has named, or the call fails for the first that cannot be read. Then nothing of the page is answered
and no success is counted. `answer_allOrNothing` is the theorem for both stores.
-/

namespace EntityGateway

open Dialogue (Run)

/-- The page says what the document store has said about it. -/
structure DocumentStore.IsDescribed (response : Http.Response) (envelope : Store.DocumentEnvelope)
    (collection : EntityCollection) : Prop where
  total : collection.totalRecordCount = envelope.count.getD (-1)
  /-- The cookie is what the header says if it can be read and is not empty. -/
  cookie : ∀ cookie, collection.pagingCookie = some cookie ↔
    response.header? continuationHeader = some cookie ∧ cookie ≠ ""
  more : collection.moreRecords = true ↔ ∃ cookie, collection.pagingCookie = some cookie

/-- The page says what the remote service has said about it. -/
structure RemoteService.IsDescribed (envelope : Store.CollectionEnvelope)
    (collection : EntityCollection) : Prop where
  total : collection.totalRecordCount = envelope.count.getD (-1)
  cookie : collection.pagingCookie = envelope.nextLink.bind pagingCookie?
  more : collection.moreRecords = true ↔ ∃ link, envelope.nextLink = some link

/-- A call for a page that met with some records answers all of them, on a page that is described as
it should be, or fails for the first that cannot be read. -/
structure AllOrNothing (m : EntityMetadata) (mode : CoercionMode) (records : List Record)
    (IsDescribed : EntityCollection → Prop) (before later : Metrics)
    (run : Run ServiceError Answer) : Prop where
  succeeded_iff : run.succeeded = true ↔ ∀ r ∈ records, ∃ e, Entity.ofRecord m mode r = .ok e
  all : run.succeeded = true → ∃ collection, run.outcome = .ok (.page collection) ∧
    List.Forall₂ (fun r e => Entity.ofRecord m mode r = .ok e) records collection.entities ∧
    IsDescribed collection
  nothing : run.succeeded = false → ∃ index fault,
    FirstFailure (Entity.ofRecord m mode) records index fault ∧
    run.outcome = .error (.store (.unreadable fault)) ∧ later.succeeded = before.succeeded

/-! ## What the stores say -/

theorem DocumentStore.continuation?_eq_some_iff {response : Http.Response} {cookie : String} :
    continuation? response = some cookie ↔
      response.header? continuationHeader = some cookie ∧ cookie ≠ "" := by
  constructor
  · intro named
    obtain ⟨other, present, kept⟩ := Option.bind_eq_some_iff.mp named
    split_ifs at kept with empty
    cases kept
    exact ⟨present, mt String.isEmpty_iff.mpr empty⟩
  · rintro ⟨present, given⟩
    apply Option.bind_eq_some_iff.mpr
    exact ⟨cookie, present, if_neg (mt String.isEmpty_iff.mp given)⟩

theorem DocumentStore.isDescribed_pageWith (response : Http.Response)
    (envelope : Store.DocumentEnvelope) (entities : List Entity) :
    IsDescribed response envelope (pageWith response envelope entities) where
  total := rfl
  cookie _ := continuation?_eq_some_iff
  more := Option.isSome_iff_exists

theorem RemoteService.isDescribed_pageWith (envelope : Store.CollectionEnvelope)
    (entities : List Entity) : IsDescribed envelope (pageWith envelope entities) where
  total := rfl
  cookie := rfl
  more := Option.isSome_iff_exists

/-! ## What the call answers -/

/-- Records that are read one by one and put on a page are answered entirely or not at all. -/
theorem allOrNothing_of_reading {m : EntityMetadata} {mode : CoercionMode} {records : List Record}
    {IsDescribed : EntityCollection → Prop} {before later : Metrics}
    {run : Run ServiceError Answer} {pageWith : List Entity → EntityCollection}
    (outcome : run.outcome =
      ((((records.mapM (Entity.ofRecord m mode)).mapError StoreError.unreadable).map pageWith).map
        Answer.page).mapError .store)
    (holds : ∀ entities, (pageWith entities).entities = entities)
    (described : ∀ entities, IsDescribed (pageWith entities))
    (counted : later.succeeded = before.succeeded + [run].countP Run.succeeded) :
    AllOrNothing m mode records IsDescribed before later run := by
  cases read : records.mapM (Entity.ofRecord m mode) with
  | error fault =>
      rw [read] at outcome
      obtain ⟨index, failure⟩ := firstFailure_of_mapM_eq_error read
      obtain ⟨r, at?, unreadable⟩ := failure.fails
      have failed : run.succeeded = false := by
        rw [Run.succeeded, outcome]
        rfl
      refine ⟨⟨fun ended => ?_, fun readable => ?_⟩, fun ended => ?_, fun _ => ?_⟩
      · cases failed.symm.trans ended
      · obtain ⟨e, fine⟩ := readable r (List.mem_of_getElem? at?)
        cases unreadable.symm.trans fine
      · cases failed.symm.trans ended
      · refine ⟨index, fault, failure, outcome, counted.trans ?_⟩
        rw [List.countP_singleton, failed]
        rfl
  | ok entities =>
      rw [read] at outcome
      have beside := forall₂_of_mapM_eq_ok read
      have ended : run.succeeded = true := by
        rw [Run.succeeded, outcome]
        rfl
      refine ⟨⟨fun _ r member => ?_, fun _ => ended⟩, fun _ => ?_, fun failed => ?_⟩
      · obtain ⟨e, -, fine⟩ := exists_beside_left beside member
        exact ⟨e, fine⟩
      · exact ⟨pageWith entities, outcome, (holds entities).symm ▸ beside, described entities⟩
      · cases failed.symm.trans ended

namespace Service

variable {s : Service} {q : Query} {now : Instant} {responses : List (Option Http.Response)}
  {response : Http.Response}

/-- A call for a page that met with a response of success answers all of its records or none. -/
theorem answer_allOrNothing
    (met : (s.answer ⟨.page q, now, responses⟩).1.dataResponse? responses = some response)
    (success : response.status.isSuccess = true) :
    let (run, s') := s.answer ⟨.page q, now, responses⟩
    ∃ m, s.configuration.metadata.entity? q.entity = some m ∧
      match s.configuration.dataSource with
      | .documentStore _ => ∀ envelope,
          decodeText Store.DocumentEnvelope.decode response.body = .value envelope →
          AllOrNothing m .primaryIdOnly envelope.documents
            (DocumentStore.IsDescribed response envelope) s.metrics s'.metrics run
      | .remoteService _ => ∀ envelope,
          decodeText Store.CollectionEnvelope.decode response.body = .value envelope →
          AllOrNothing m .allAttributes envelope.value (RemoteService.IsDescribed envelope)
            s.metrics s'.metrics run := by
  have counted := (s.account_answer ⟨.page q, now, responses⟩).succeeded
  rcases s.answered_answer ⟨.page q, now, responses⟩ with ⟨unmet, -⟩ | ⟨described, met', outcome⟩
  · cases unmet.symm.trans met
  · cases met'.symm.trans met
    refine ⟨_, described, ?_⟩
    cases source : s.configuration.dataSource with
    | documentStore connection =>
        intro envelope decoded
        rw [source, Call.read, DocumentStore.pageOf_of_decoded success decoded] at outcome
        exact allOrNothing_of_reading outcome (fun _ => rfl)
          (DocumentStore.isDescribed_pageWith response envelope) counted
    | remoteService connection =>
        intro envelope decoded
        rw [source, Call.read, RemoteService.pageOf_of_decoded success decoded] at outcome
        exact allOrNothing_of_reading outcome (fun _ => rfl)
          (RemoteService.isDescribed_pageWith envelope) counted

/-- A service in front of a document store with the entity of `remoteShelf`. -/
def documentShelf : Configuration :=
  { remoteShelf with dataSource := .documentStore ⟨"https://d.example", "c2VjcmV0", "db"⟩ }

/-- A page of the document store whose second record has no identifier that can be read. -/
def brokenPage : Http.Response where
  status := ⟨200⟩
  headers := [("X-MS-Continuation", "next")]
  body := (Json.object [("Documents", .array [
    .object [("bookid", .null)],
    .object [("bookid", .integer 7)]])]).compact

/-- A page of the remote service with two records and a link to the next page. -/
def linkedPage : Http.Response where
  status := ⟨200⟩
  headers := []
  body := (Json.object [
    ("@odata.count", .integer 12),
    ("@odata.nextLink", .string "?pagingcookie=%27next%27"),
    ("value", .array [
      .object [("bookid", .null)],
      .object [("pages", .integer 300)]])]).compact

theorem answer_allOrNothing_shelves :
    let x (responses : List (Option Http.Response)) : Exchange :=
      ⟨.page { entity := "book" }, ⟨0, 0, by decide, by decide⟩, responses⟩
    let broken := [some brokenPage]
    let linked := [some ⟨⟨200⟩, [], tokenBody.compact⟩, some linkedPage]
    let (run, s) := Service.answer ⟨documentShelf, {}⟩ (x broken)
    let (run', s') := Service.answer ⟨remoteShelf, {}⟩ (x linked)
    run.dataResponse? broken = some brokenPage ∧ brokenPage.status.isSuccess = true ∧
      run'.dataResponse? linked = some linkedPage ∧ linkedPage.status.isSuccess = true ∧
      (∃ envelope m,
        decodeText Store.DocumentEnvelope.decode brokenPage.body = .value envelope ∧
        documentShelf.metadata.entity? "book" = some m ∧
        AllOrNothing m .primaryIdOnly envelope.documents
          (DocumentStore.IsDescribed brokenPage envelope) {} s.metrics run) ∧
      ∃ envelope m,
        decodeText Store.CollectionEnvelope.decode linkedPage.body = .value envelope ∧
        remoteShelf.metadata.entity? "book" = some m ∧
        AllOrNothing m .allAttributes envelope.value (RemoteService.IsDescribed envelope)
          {} s'.metrics run' := by
  intro x broken linked
  have met : (Service.answer ⟨documentShelf, {}⟩ (x broken)).1.dataResponse? broken =
      some brokenPage := by decide +kernel
  have met' : (Service.answer ⟨remoteShelf, {}⟩ (x linked)).1.dataResponse? linked =
      some linkedPage := by decide +kernel
  obtain ⟨m, described, whole⟩ := answer_allOrNothing met (by decide)
  obtain ⟨m', described', whole'⟩ := answer_allOrNothing met' (by decide)
  have holds : (decodeText Store.DocumentEnvelope.decode brokenPage.body).toOption.isSome := by
    decide +kernel
  have holds' : (decodeText Store.CollectionEnvelope.decode linkedPage.body).toOption.isSome := by
    decide +kernel
  obtain ⟨envelope, found⟩ := Option.isSome_iff_exists.mp holds
  obtain ⟨envelope', found'⟩ := Option.isSome_iff_exists.mp holds'
  have decoded := Decoded.of_toOption_eq_some found
  have decoded' := Decoded.of_toOption_eq_some found'
  exact ⟨met, by decide, met', by decide, ⟨envelope, m, decoded, described, whole envelope decoded⟩,
    envelope', m', decoded', described', whole' envelope' decoded'⟩

end Service

end EntityGateway
