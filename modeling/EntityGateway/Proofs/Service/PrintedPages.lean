import EntityGateway.Proofs.Json.Numbers
import EntityGateway.Proofs.Record.Printed
import EntityGateway.Proofs.Service.Dialogues
import EntityGateway.Proofs.Service.Pages

/-!
# Answered pages are read back

A page that a store has answered with is read back from its JSON form, and written again it has the
same JSON form. The records of a page come from the text of a response, whichever store has sent it,
so that what the page took over from them is in order; and the types that values have in the page
are lost without a trace.
-/

namespace EntityGateway

/-! ## Where records come from -/

/-- The records were read from documents. -/
def Record.AreDecoded (records : List Record) : Prop :=
  ∀ r ∈ records, ∃ d, Record.decode d = .value r

theorem Record.areDecoded_of_withDefault {fields : Fields} {name : String} {records : List Record}
    (found : fields.withDefault name (Decode.list Record.decode) [] = .value records) :
    AreDecoded records := by
  rcases Fields.exists_part_of_withDefault found with rfl | ⟨d, -, read⟩
  · exact List.forall_mem_nil _
  · obtain ⟨items, -, each⟩ := Decode.exists_items_of_list read
    intro r member
    obtain ⟨part, -, fine⟩ := each r member
    exact ⟨part, fine⟩

theorem Store.DocumentEnvelope.areDecoded_of_decode {d : Document} {envelope : DocumentEnvelope}
    (decoded : DocumentEnvelope.decode d = .value envelope) :
    Record.AreDecoded envelope.documents := by
  obtain ⟨fields, -, found⟩ := Decode.exists_fields_of_structure decoded
  obtain ⟨ofDocuments, documents, others, foundDocuments, rfl⟩ := Found.of_seq_eq_value found
  obtain ⟨ofCount, count, first, -, rfl⟩ := Found.of_seq_eq_value others
  obtain ⟨resourceId, -, rfl⟩ := Found.of_map_eq_value first
  exact Record.areDecoded_of_withDefault foundDocuments

theorem Store.CollectionEnvelope.areDecoded_of_decode {d : Document}
    {envelope : CollectionEnvelope} (decoded : CollectionEnvelope.decode d = .value envelope) :
    Record.AreDecoded envelope.value := by
  obtain ⟨fields, -, found⟩ := Decode.exists_fields_of_structure decoded
  obtain ⟨ofValue, value, others, foundValue, rfl⟩ := Found.of_seq_eq_value found
  obtain ⟨ofLink, nextLink, firstTwo, -, rfl⟩ := Found.of_seq_eq_value others
  obtain ⟨ofCount, count, first, -, rfl⟩ := Found.of_seq_eq_value firstTwo
  obtain ⟨context, -, rfl⟩ := Found.of_map_eq_value first
  exact Record.areDecoded_of_withDefault foundValue

/-! ## Where pages come from -/

theorem Store.exists_response_of_reading {α : Type} {read : Http.Response → Except StoreError α}
    {response? : Option Http.Response} {a : α} (answered : reading read response? = .ok a) :
    ∃ response, read response = .ok a := by
  cases response? with
  | none => cases answered
  | some response => exact ⟨response, answered⟩

variable {m : EntityMetadata} {responses : List (Option Http.Response)} {c : EntityCollection}

theorem DocumentStore.exists_response_of_execute {connection : Connection} {now : Instant}
    {statement : String} {paging : Option Paging}
    (answered : ((execute connection now m statement paging).run responses).outcome = .ok c) :
    ∃ response, pageOf m response = .ok c := by
  cases signed : authorization? "POST" resourceType
      (connection.resourceId m.externalCollectionName) now.headerDate connection.key with
  | none =>
      rw [execute_of_unreadableKey (authorization?_eq_none.mp signed),
        Dialogue.run_ended] at answered
      cases answered
  | some authorization =>
      rw [run_execute signed] at answered
      dsimp only at answered
      exact Store.exists_response_of_reading answered

theorem RemoteService.exists_response_of_execute {connection : Connection} {queryString : String}
    {pageSize : Option UInt32}
    (answered : ((execute connection m queryString pageSize).run responses).outcome = .ok c) :
    ∃ response, pageOf m response = .ok c := by
  rw [execute] at answered
  cases granted : Store.reading tokenOf ((tokenRequest connection).response? responses) with
  | error e =>
      rw [run_of_noToken granted] at answered
      cases answered
  | ok token =>
      rw [run_of_token granted] at answered
      dsimp only at answered
      exact Store.exists_response_of_reading answered

/-! ## Printing and reading back -/

namespace EntityCollection

/-- A page that a store can answer with: as it executes a request, or by whichever types of values
it reads the records on the page. -/
inductive IsAnswered (c : EntityCollection) : Prop
  | documents {connection : DocumentStore.Connection} {now : Instant} {m : EntityMetadata}
      {statement : String} {paging : Option Paging} {responses : List (Option Http.Response)}
      (answered : ((DocumentStore.execute connection now m statement paging).run
        responses).outcome = .ok c)
  | service {connection : RemoteService.Connection} {m : EntityMetadata} {queryString : String}
      {pageSize : Option UInt32} {responses : List (Option Http.Response)}
      (answered : ((RemoteService.execute connection m queryString pageSize).run
        responses).outcome = .ok c)
  | records {m : EntityMetadata} {mode : CoercionMode} {records : List Record}
      (decoded : Record.AreDecoded records)
      (read : records.mapM (Entity.ofRecord m mode) = .ok c.entities)

theorem isCanonical_of_mapM {mode : CoercionMode} {records : List Record} {entities : List Entity}
    (decoded : Record.AreDecoded records)
    (read : records.mapM (Entity.ofRecord m mode) = .ok entities) :
    ∀ e ∈ entities, e.IsCanonical := by
  intro e member
  obtain ⟨r, inRecords, fine⟩ := exists_beside_right (forall₂_of_mapM_eq_ok read) member
  obtain ⟨d, decodedRecord⟩ := decoded r inRecords
  exact Entity.isCanonical_of_ofRecord (Record.isCanonical_of_decode decodedRecord) fine

theorem IsAnswered.isCanonical (answered : c.IsAnswered) : ∀ e ∈ c.entities, e.IsCanonical := by
  cases answered with
  | documents answered =>
      obtain ⟨response, page⟩ := DocumentStore.exists_response_of_execute answered
      obtain ⟨envelope, entities, -, decoded, read, rfl⟩ := DocumentStore.of_pageOf page
      obtain ⟨d, -, decoded⟩ := exists_proper_of_decodeText decoded
      exact isCanonical_of_mapM (Store.DocumentEnvelope.areDecoded_of_decode decoded) read
  | service answered =>
      obtain ⟨response, page⟩ := RemoteService.exists_response_of_execute answered
      obtain ⟨envelope, entities, -, decoded, read, rfl⟩ := RemoteService.of_pageOf page
      obtain ⟨d, -, decoded⟩ := exists_proper_of_decodeText decoded
      exact isCanonical_of_mapM (Store.CollectionEnvelope.areDecoded_of_decode decoded) read
  | records decoded read => exact isCanonical_of_mapM decoded read

/-- The JSON form of an answered page is read as a page that has the same JSON form. Its entities
are the same ones in the same order, with untyped values, and nothing else about it changes. -/
theorem reread_of_answered (answered : c.IsAnswered) :
    ∃ c', decodeValue decode c.toJson = some c' ∧ c'.toJson = c.toJson ∧
      c'.entities.map Entity.id = c.entities.map Entity.id ∧
      c'.entities.map Entity.logicalName = c.entities.map Entity.logicalName ∧
      c'.entities.map Entity.attributes =
        c.entities.map (fun e => e.attributes.mapValues Value.untyped) ∧
      c'.moreRecords = c.moreRecords ∧ c'.totalRecordCount = c.totalRecordCount ∧
      c'.pagingCookie = c.pagingCookie := by
  have decoded : decodeValue decode c.toJson = some c.untyped := by
    rw [decodeValue, decode_toJson answered.isCanonical]
    rfl
  refine ⟨c.untyped, decoded, c.toJson_untyped, ?_, ?_, ?_, rfl, rfl, rfl⟩
  · rw [untyped, List.map_map]
    rfl
  · rw [untyped, List.map_map]
    rfl
  · rw [untyped, List.map_map]
    rfl

/-- The description of books with an attribute of each kind that is read by its type. -/
def typedBook : EntityMetadata where
  logicalName := "book"
  externalName := "book"
  externalCollectionName := "books"
  primaryIdAttribute := "id"
  attributes := [⟨"id", "b", .uniqueidentifier⟩, ⟨"genre", "g", .picklist⟩,
    ⟨"price", "p", .money⟩, ⟨"published", "d", .dateTime⟩, ⟨"pages", "n", .bigInt⟩,
    ⟨"notes", "o", .memo⟩]

/-- A page of the remote service with a book that has a value for each of them. -/
def typedBookPage : List (Option Http.Response) := [
  some ⟨⟨200⟩, [], "\x7b\"access_token\":\"a\",\"resource\":\"https://s.example\"\x7d"⟩,
  some ⟨⟨200⟩, [], "\x7b\"value\":[\x7b\"b\":\"0C0FFEE0C0FFEE0C0FFEE0C0FFEE0C0F\"," ++
    "\"g\":7,\"p\":\"1.50\",\"d\":\"2020-02-29T12:00:00Z\",\"n\":18446744073709551615," ++
    "\"o\":\x7b\"z\":[18446744073709551615],\"a\":null\x7d\x7d]\x7d"⟩]

theorem reread_of_answered_typedBook :
    ∃ c, IsAnswered c ∧ c.entities.length = 1 ∧
      ∃ c', decodeValue decode c.toJson = some c' ∧ c'.toJson = c.toJson ∧
        c'.entities.map Entity.id = c.entities.map Entity.id ∧
        c'.entities.map Entity.logicalName = c.entities.map Entity.logicalName ∧
        c'.entities.map Entity.attributes =
          c.entities.map (fun e => e.attributes.mapValues Value.untyped) ∧
        c'.moreRecords = c.moreRecords ∧ c'.totalRecordCount = c.totalRecordCount ∧
        c'.pagingCookie = c.pagingCookie := by
  have found : (((RemoteService.execute ⟨"https://s.example", "u", "p", "https://t.example", "c"⟩
      typedBook "" none).run typedBookPage).outcome.toOption.map
        fun c => c.entities.length) = some 1 := by decide +kernel
  obtain ⟨c, answered, single⟩ := Option.map_eq_some_iff.mp found
  have answered : IsAnswered c := .service (ok_of_toOption_eq_some answered)
  exact ⟨c, answered, single, reread_of_answered answered⟩

end EntityCollection

end EntityGateway
