import EntityGateway.Json.Decode
import EntityGateway.Proofs.NameMap

/-!
# Decoding

What decoders do, as later modules need to know it. A decoder that has given a value is taken apart
into the decoders of the parts. A value that was written by this library is read back part by part:
its documents have no faults, so that every field is found under its name. `json_toDocument_of_json`
says that reading what was read changes nothing.
-/

namespace EntityGateway

variable {α β : Type}

/-! ## Decoders that have given a value -/

namespace Decoded

@[simp] theorem map_value (f : α → β) (a : α) : f <$> value a = value (f a) :=
  rfl

@[simp] theorem placedAt_value (place : Nat) (a : α) : (value a).placedAt place = value a :=
  rfl

theorem of_map_eq_value {f : α → β} {x : Decoded α} {b : β} (mapped : f <$> x = value b) :
    ∃ a, x = value a ∧ f a = b := by
  cases x with
  | value a => exact ⟨a, rfl, Decoded.value.inj mapped⟩
  | fault e => cases mapped

/-- What was decoded in two steps was decoded by each of them. -/
theorem of_bind_eq_value {x : Decoded α} {f : α → Decoded β} {b : β}
    (bound : (x >>= f) = value b) : ∃ a, x = value a ∧ f a = value b := by
  cases x with
  | value a => exact ⟨a, rfl, bound⟩
  | fault e => cases bound

theorem of_placedAt_eq_value {x : Decoded α} {place : Nat} {a : α}
    (placed : x.placedAt place = value a) : x = value a := by
  cases x with
  | value b => exact placed
  | fault e => cases placed

theorem of_toOption_eq_some {x : Decoded α} {a : α} (some : x.toOption = some a) :
    x = value a := by
  cases x with
  | value b => cases some; rfl
  | fault e => cases some

end Decoded

namespace Found

@[simp] theorem map_value (f : α → β) (a : α) : f <$> value a = value (f a) :=
  rfl

@[simp] theorem seq_value (f : α → β) (a : α) : value f <*> value a = value (f a) :=
  rfl

@[simp] theorem inPart_value (part : Nat) (a : α) : inPart part (.value a) = value a :=
  rfl

@[simp] theorem decoded_value (a : α) : (value a).decoded = .value a :=
  rfl

theorem of_map_eq_value {f : α → β} {x : Found α} {b : β} (mapped : f <$> x = value b) :
    ∃ a, x = value a ∧ f a = b := by
  cases x with
  | value a => exact ⟨a, rfl, Found.value.inj mapped⟩
  | fault part e => cases mapped

/-- What was found in two parts was found in each of them. -/
theorem of_seq_eq_value {f : Found (α → β)} {x : Found α} {b : β} (applied : f <*> x = value b) :
    ∃ g a, f = value g ∧ x = value a ∧ g a = b := by
  cases f with
  | value g =>
      cases x with
      | value a => exact ⟨g, a, rfl, rfl, Found.value.inj applied⟩
      | fault part e => cases applied
  | fault part e =>
      cases x with
      | value a => cases applied
      | fault part' e' =>
          change (if part < part' then fault part' e' else fault part e) = value b at applied
          split at applied <;> cases applied

theorem of_inPart_eq_value {part : Nat} {x : Decoded α} {a : α} (found : inPart part x = value a) :
    x = .value a := by
  cases x with
  | value b => cases found; rfl
  | fault e => cases found

theorem of_decoded_eq_value {x : Found α} {a : α} (decoded : x.decoded = .value a) :
    x = value a := by
  cases x with
  | value b => cases decoded; rfl
  | fault part e => cases decoded

end Found

/-- A complete structure has what was found in it. -/
theorem Fields.of_complete_eq_value {fields : Fields} {found : Found α} {a : α}
    (completed : fields.complete found = .value a) : found = .value a := by
  obtain ⟨g, u, mapped, -, applied⟩ := Found.of_seq_eq_value (Found.of_decoded_eq_value completed)
  obtain ⟨b, rfl, rfl⟩ := Found.of_map_eq_value mapped
  exact congrArg Found.value applied

/-! ## JSON as documents -/

mutual

/-- Nothing that was written is broken. -/
theorem Json.impasse?_toDocument : (j : Json) → j.toDocument.impasse? = none
  | .null | .boolean _ | .integer _ | .double _ | .string _ => rfl
  | .array items => Json.impasse?_toItems items
  | .object members => Json.impasse?_toMembers members

theorem Json.impasse?_toItems : (items : List Json) → (Json.toItems items).impasse? = none
  | [] => rfl
  | item :: rest => by
      rw [Json.toItems, Items.impasse?, Json.impasse?_toDocument item, Json.impasse?_toItems rest]
      rfl

theorem Json.impasse?_toMembers :
    (members : List (String × Json)) → (Json.toMembers members).impasse? = none
  | [] => rfl
  | (name, value) :: rest => by
      rw [Json.toMembers, Members.impasse?, Json.impasse?_toDocument value,
        Json.impasse?_toMembers rest]
      rfl

end

namespace Decode

/-- A list of values is read as itself if each of them is. -/
theorem jsonItems_toItems {items : List Json}
    (read : ∀ item ∈ items, json item.toDocument = .value item) :
    jsonItems (Json.toItems items) = .value items := by
  induction items with
  | nil => rfl
  | cons item rest ih =>
      rw [Json.toItems, jsonItems, read item List.mem_cons_self,
        ih fun item member => read item (List.mem_cons_of_mem _ member)]
      rfl

/-- Members are read as themselves if each of their values is. -/
theorem jsonMembers_toMembers {members : List (String × Json)}
    (read : ∀ member ∈ members, json member.2.toDocument = .value member.2) :
    jsonMembers (Json.toMembers members) = .value members := by
  induction members with
  | nil => rfl
  | cons member rest ih =>
      obtain ⟨name, value⟩ := member
      rw [Json.toMembers, jsonMembers, read (name, value) List.mem_cons_self,
        ih fun member inRest => read member (List.mem_cons_of_mem _ inRest)]
      rfl

mutual

/-- Reading a value that was read changes nothing. -/
theorem json_toDocument_of_json : (d : Document) → {j : Json} → json d = .value j →
    json j.toDocument = .value j
  | .null _, _, decoded | .boolean _ _, _, decoded | .integer _ _, _, decoded
  | .double _ _, _, decoded | .string _ (.ok _), _, decoded => by cases decoded; rfl
  | .string _ (.error _), _, decoded | .broken _ _, _, decoded => by cases decoded
  | .array _ items, _, decoded => by
      obtain ⟨js, read, rfl⟩ := Decoded.of_map_eq_value decoded
      rw [Json.toDocument, json, jsonItems_toItems (json_toDocument_of_jsonItems items read)]
      rfl
  | .object _ members, _, decoded => by
      obtain ⟨entries, read, rfl⟩ := Decoded.of_map_eq_value decoded
      have each := json_toDocument_of_jsonMembers members read
      rw [Json.toDocument, json,
        jsonMembers_toMembers fun entry member => each entry (mem_of_mem_sortEntries member),
        Decoded.map_value, sortEntries_of_sorted (sortedByName_sortEntries entries)]

/-- Values that were read in an array are read again as they are. -/
theorem json_toDocument_of_jsonItems : (items : Items) → {js : List Json} →
    jsonItems items = .value js → ∀ j ∈ js, json j.toDocument = .value j
  | .closed _, _, decoded => by cases decoded; simp
  | .broken _, _, decoded | .tooDeep _ _, _, decoded => by cases decoded
  | .cons item rest, _, decoded => by
      obtain ⟨first, readFirst, decoded⟩ := Decoded.of_bind_eq_value decoded
      obtain ⟨others, readOthers, decoded⟩ := Decoded.of_bind_eq_value decoded
      cases decoded
      exact List.forall_mem_cons.mpr
        ⟨json_toDocument_of_json item readFirst, json_toDocument_of_jsonItems rest readOthers⟩

/-- Values that were read in an object are read again as they are. -/
theorem json_toDocument_of_jsonMembers : (members : Members) → {entries : List (String × Json)} →
    jsonMembers members = .value entries →
    ∀ entry ∈ entries, json entry.2.toDocument = .value entry.2
  | .closed _, _, decoded => by cases decoded; simp
  | .broken _, _, decoded | .tooDeep _ _, _, decoded
  | .cons _ (.error _) _ _ _ _, _, decoded => by cases decoded
  | .cons _ (.ok name) _ value _ rest, _, decoded => by
      obtain ⟨first, readFirst, decoded⟩ := Decoded.of_bind_eq_value decoded
      obtain ⟨others, readOthers, decoded⟩ := Decoded.of_bind_eq_value decoded
      cases decoded
      exact List.forall_mem_cons.mpr
        ⟨json_toDocument_of_json value readFirst, json_toDocument_of_jsonMembers rest readOthers⟩

end

end Decode

end EntityGateway
