import EntityGateway.DocumentStore.Client
import EntityGateway.Proofs.Record.Reading
import EntityGateway.RemoteService.Client

/-!
# Pages as the stores read them

A page is read from a response of success whose body holds an envelope: the records of the envelope
are read one by one and put on the page, together with what the response says about the page. These
are the laws by which later modules know how the two stores read; `of_pageOf` takes a page apart
that was read.
-/

namespace EntityGateway

variable {m : EntityMetadata} {response : Http.Response}

/-! ## The document store -/

namespace DocumentStore

variable {envelope : Store.DocumentEnvelope} {collection : EntityCollection}

/-- The page of the records that were read. -/
def pageWith (response : Http.Response) (envelope : Store.DocumentEnvelope)
    (entities : List Entity) : EntityCollection where
  entities
  moreRecords := (continuation? response).isSome
  totalRecordCount := envelope.count.getD (-1)
  pagingCookie := continuation? response

theorem pageOf_of_decoded (success : response.status.isSuccess = true)
    (decoded : decodeText Store.DocumentEnvelope.decode response.body = .value envelope) :
    pageOf m response =
      ((envelope.documents.mapM (Entity.ofRecord m .primaryIdOnly)).mapError .unreadable).map
        (pageWith response envelope) := by
  rw [pageOf, if_pos success, decoded, ← Entity.ofRecords_eq_mapM]
  dsimp only
  cases Entity.ofRecords m .primaryIdOnly envelope.documents <;> rfl

theorem of_pageOf (read : pageOf m response = .ok collection) :
    ∃ envelope entities, response.status.isSuccess = true ∧
      decodeText Store.DocumentEnvelope.decode response.body = .value envelope ∧
      envelope.documents.mapM (Entity.ofRecord m .primaryIdOnly) = .ok entities ∧
      collection = pageWith response envelope entities := by
  by_cases success : response.status.isSuccess = true
  · cases decoded : decodeText Store.DocumentEnvelope.decode response.body with
    | fault e =>
        rw [pageOf, if_pos success, decoded] at read
        cases read
    | value envelope =>
        rw [pageOf_of_decoded success decoded] at read
        obtain ⟨entities, mapped, rfl⟩ := ok_of_map_eq_ok read
        exact ⟨envelope, entities, success, rfl, ok_of_mapError_eq_ok mapped, rfl⟩
  · rw [pageOf, if_neg success] at read
    cases read

end DocumentStore

/-! ## The remote service -/

namespace RemoteService

variable {envelope : Store.CollectionEnvelope} {collection : EntityCollection}

/-- The page of the records that were read. -/
def pageWith (envelope : Store.CollectionEnvelope) (entities : List Entity) :
    EntityCollection where
  entities
  moreRecords := envelope.nextLink.isSome
  totalRecordCount := envelope.count.getD (-1)
  pagingCookie := envelope.nextLink.bind pagingCookie?

theorem pageOf_of_decoded (success : response.status.isSuccess = true)
    (decoded : decodeText Store.CollectionEnvelope.decode response.body = .value envelope) :
    pageOf m response =
      ((envelope.value.mapM (Entity.ofRecord m .allAttributes)).mapError .unreadable).map
        (pageWith envelope) := by
  rw [pageOf, if_pos success, decoded, ← Entity.ofRecords_eq_mapM]
  dsimp only
  cases Entity.ofRecords m .allAttributes envelope.value <;> rfl

theorem of_pageOf (read : pageOf m response = .ok collection) :
    ∃ envelope entities, response.status.isSuccess = true ∧
      decodeText Store.CollectionEnvelope.decode response.body = .value envelope ∧
      envelope.value.mapM (Entity.ofRecord m .allAttributes) = .ok entities ∧
      collection = pageWith envelope entities := by
  by_cases success : response.status.isSuccess = true
  · cases decoded : decodeText Store.CollectionEnvelope.decode response.body with
    | fault e =>
        rw [pageOf, if_pos success, decoded] at read
        cases read
    | value envelope =>
        rw [pageOf_of_decoded success decoded] at read
        obtain ⟨entities, mapped, rfl⟩ := ok_of_map_eq_ok read
        exact ⟨envelope, entities, success, rfl, ok_of_mapError_eq_ok mapped, rfl⟩
  · rw [pageOf, if_neg success] at read
    cases read

/-- A single record is missing, or it is read by itself. -/
theorem of_recordOf {entity : Option Entity} (read : recordOf m response = .ok entity) :
    entity = none ∧ response.status = .notFound ∨
    ∃ record e, response.status.isSuccess = true ∧
      decodeText Record.decode response.body = .value record ∧
      Entity.ofRecord m .allAttributes record = .ok e ∧ entity = some e := by
  unfold recordOf at read
  split_ifs at read with missing success
  · cases read
    exact .inl ⟨rfl, missing⟩
  · cases decoded : decodeText Record.decode response.body with
    | fault e =>
        rw [decoded] at read
        cases read
    | value record =>
        rw [decoded] at read
        cases fine : Entity.ofRecord m .allAttributes record with
        | error fault =>
            simp only [fine] at read
            cases read
        | ok e =>
            simp only [fine] at read
            cases read
            exact .inr ⟨record, e, success, rfl, fine, rfl⟩

end RemoteService

end EntityGateway
