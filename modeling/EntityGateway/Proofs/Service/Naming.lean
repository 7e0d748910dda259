import EntityGateway.Configuration.Files
import EntityGateway.Proofs.Metadata
import EntityGateway.Proofs.Service.Accounting
import EntityGateway.Proofs.Service.Answers
import EntityGateway.Proofs.Service.Pages

/-!
# Answered entities are the ones asked for

Every entity of an answer was read from a record, under the description that the metadata keeps for
the name in the call, and carries the logical name of that description. If each description is kept
under its own logical name, as metadata is that was put together entity by entity, the two names are
the same (`logicalName_of_answered`). A configuration file may keep a description under another name
and is accepted all the same (`answer_mislabelledFile`).
-/

namespace EntityGateway

open Dialogue (Run)

/-- The entities of an answer. -/
def Answer.entities : Answer → List Entity
  | .page collection => collection.entities
  | .record entity => entity.toList

/-- The entities were read from records. -/
def AreRead (m : EntityMetadata) (entities : List Entity) : Prop :=
  ∃ mode, ∀ e ∈ entities, ∃ r, Entity.ofRecord m mode r = .ok e

variable {m : EntityMetadata} {mode : CoercionMode} {response : Http.Response}

/-! ## What the stores read -/

theorem AreRead.of_mapM {records : List Record} {entities : List Entity}
    (read : records.mapM (Entity.ofRecord m mode) = .ok entities) : AreRead m entities := by
  refine ⟨mode, fun e member => ?_⟩
  obtain ⟨r, -, fine⟩ := exists_beside_right (forall₂_of_mapM_eq_ok read) member
  exact ⟨r, fine⟩

theorem Call.areRead_of_read {call : Call} {source : DataSource} {answer : Answer}
    (read : call.read source m response = .ok answer) : AreRead m answer.entities := by
  cases source with
  | documentStore connection =>
      obtain ⟨collection, page, rfl⟩ := ok_of_map_eq_ok read
      obtain ⟨envelope, entities, -, -, fine, rfl⟩ := DocumentStore.of_pageOf page
      obtain ⟨mode, each⟩ := AreRead.of_mapM fine
      cases call with
      | page q => exact ⟨mode, each⟩
      | record r =>
          refine ⟨mode, fun e first => each e ?_⟩
          exact List.mem_of_head? (Option.mem_toList.mp first)
  | remoteService connection =>
      cases call with
      | page q =>
          obtain ⟨collection, page, rfl⟩ := ok_of_map_eq_ok read
          obtain ⟨envelope, entities, -, -, fine, rfl⟩ := RemoteService.of_pageOf page
          exact .of_mapM fine
      | record r =>
          obtain ⟨entity, record, rfl⟩ := ok_of_map_eq_ok read
          rcases RemoteService.of_recordOf record with
            ⟨rfl, -⟩ | ⟨single, e, -, -, fine, rfl⟩
          · exact ⟨.allAttributes, List.forall_mem_nil _⟩
          · exact ⟨.allAttributes, List.forall_mem_singleton.mpr ⟨single, fine⟩⟩

namespace Service

variable {s : Service} {x : Exchange} {answer : Answer}

/-- The entities of an answer are read under the description of the entity that was asked for. -/
theorem areRead_of_answered (answered : (s.answer x).1.outcome = .ok answer) :
    ∃ m, s.configuration.metadata.entity? x.call.entity = some m ∧ AreRead m answer.entities := by
  rcases s.answered_answer x with ⟨-, failed⟩ | ⟨described, -, outcome⟩
  · cases failed.symm.trans answered
  · have read := ok_of_mapError_eq_ok (outcome.symm.trans answered)
    exact ⟨_, described, Call.areRead_of_read read⟩

/-- Answered entities are the ones asked for, if each description is kept under its name. -/
theorem logicalName_of_answered (keyed : s.configuration.metadata.IsKeyed)
    (answered : (s.answer x).1.outcome = .ok answer) :
    ∀ e ∈ answer.entities, e.logicalName = x.call.entity := by
  obtain ⟨m, described, mode, each⟩ := areRead_of_answered answered
  intro e member
  obtain ⟨r, read⟩ := each e member
  calc e.logicalName
    _ = m.logicalName := Entity.logicalName_of_ofRecord read
    _ = x.call.entity := keyed _ _ described

/-- A call for books, with a token and a page of one record. -/
def bookExchange (now : Instant) : Exchange where
  call := .page { entity := "book" }
  now
  responses := [
    some ⟨⟨200⟩, [], tokenBody.compact⟩,
    some ⟨⟨200⟩, [], (Json.object [("value", .array [.object []])]).compact⟩]

theorem logicalName_of_answered_remoteShelf :
    let x := bookExchange ⟨0, 0, by decide, by decide⟩
    remoteShelf.metadata.IsKeyed ∧
      ∃ answer, (Service.answer ⟨remoteShelf, {}⟩ x).1.outcome = .ok answer ∧
        answer.entities.length = 1 ∧ ∀ e ∈ answer.entities, e.logicalName = "book" := by
  intro x
  have keyed : remoteShelf.metadata.IsKeyed := Metadata.isKeyed_ofEntities _
  have found : ((Service.answer ⟨remoteShelf, {}⟩ x).1.outcome.toOption.map
      fun answer => answer.entities.length) = some 1 := by decide +kernel
  obtain ⟨answer, answered, single⟩ := Option.map_eq_some_iff.mp found
  have answered := ok_of_toOption_eq_some answered
  have named := logicalName_of_answered (s := ⟨remoteShelf, {}⟩) keyed answered
  exact ⟨keyed, answer, answered, single, named⟩

/-- A configuration file that keeps authors under the name of books. -/
def mislabelledFile : String :=
  "\x7b\"version\":1," ++
  "\"dataSource\":\x7b\"remoteService\":\x7b" ++
  "\"resource\":\"\",\"username\":\"\",\"password\":\"\"\x7d\x7d," ++
  "\"metadata\":\x7b\"entities\":\x7b\"book\":\x7b" ++
  "\"logicalName\":\"author\",\"externalName\":\"\",\"externalCollectionName\":\"\"," ++
  "\"primaryIdAttribute\":\"\",\"attributes\":[]\x7d\x7d\x7d\x7d"

/-- The file is accepted, and who asks for books is answered an author. -/
theorem answer_mislabelledFile :
    let x := bookExchange ⟨0, 0, by decide, by decide⟩
    x.call.entity = "book" ∧ ∃ settings c answer,
      Settings.ofText Configuration.fileName mislabelledFile = .ok settings ∧
      settings.resolve (fun _ => none) = .ok c ∧
      (Service.answer ⟨c, {}⟩ x).1.outcome = .ok answer ∧
      answer.entities.map Entity.logicalName = ["author"] := by
  intro x
  have found : ((Settings.ofText Configuration.fileName mislabelledFile).toOption.bind
      fun settings => (settings.resolve fun _ => none).toOption.bind
      fun c => (Service.answer ⟨c, {}⟩ x).1.outcome.toOption.map
      fun answer => answer.entities.map Entity.logicalName) = some ["author"] := by decide +kernel
  obtain ⟨settings, accepted, found⟩ := Option.bind_eq_some_iff.mp found
  obtain ⟨c, resolved, found⟩ := Option.bind_eq_some_iff.mp found
  obtain ⟨answer, answered, names⟩ := Option.map_eq_some_iff.mp found
  exact ⟨rfl, settings, c, answer, ok_of_toOption_eq_some accepted, ok_of_toOption_eq_some resolved,
    ok_of_toOption_eq_some answered, names⟩

end Service

end EntityGateway
