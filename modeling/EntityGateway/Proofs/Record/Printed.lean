import EntityGateway.Proofs.Json.Structures
import EntityGateway.Proofs.Record.Reading
import EntityGateway.Proofs.Uuid

/-!
# Printed pages are read back

The JSON form of a page does not say of what types the values were: identifiers, instants and
amounts are strings there, and options are integers. So a page that is read back has plain values
(`EntityCollection.untyped`), and these have the JSON form that the typed ones had.

Reading back could go wrong only with arrays and objects, which are taken over as they are. What
carries the result is that they come from records, and so from documents: an object of a record has
its members in order, and a string or number is never taken for one of these (`Value.IsCanonical`).
-/

namespace EntityGateway

/-! ## Values -/

namespace Value

/-- What the JSON form of a value is read as. -/
def untyped : Value → Value
  | double d => if d.isFinite then double d else null
  | uuid u => string u.text
  | instant i => string i.text
  | option code => integer (Int64.ofInt code.toInt)
  | money amount | decimal amount => string amount.text
  | v => v

/-- The value, if it is taken over from JSON as it is, is an array or an object, and it is one that
was read. -/
def IsCanonical : Value → Prop
  | json raw => ofJson raw = json raw ∧ Decode.json raw.toDocument = .value raw
  | _ => True

theorem toInt_ofInt_optionCode (code : Int32) : (Int64.ofInt code.toInt).toInt = code.toInt := by
  have least := code.le_toInt
  have bound := code.toInt_lt
  exact Int64.toInt_ofInt_of_le (by omega) (by omega)

/-- The type of a value does not show in its JSON form. -/
theorem toJson_untyped (v : Value) : v.untyped.toJson = v.toJson := by
  cases v with
  | double d =>
      by_cases finite : d.isFinite = true
      · rw [untyped, if_pos finite]
      · rw [untyped, if_neg finite, toJson, toJson, if_neg finite]
  | option code => exact congrArg Json.integer (toInt_ofInt_optionCode code)
  | null | boolean _ | integer _ | uuid _ | instant _ | string _ | money _ | decimal _
  | json _ => rfl

theorem ofInteger_toInt (n : Int64) : ofInteger n.toInt = integer n := by
  have bound : n.toInt < Nat.pow 2 63 := n.toInt_lt
  rw [ofInteger, if_pos bound, Int64.ofInt_toInt]

/-- A value is read from its JSON form as what JSON tells of it. -/
theorem decode_toJson {v : Value} (canonical : v.IsCanonical) :
    decode v.toJson.toDocument = .value v.untyped := by
  cases v with
  | null | boolean _ | uuid _ | instant _ | string _ | money _ | decimal _ => rfl
  | integer n => exact congrArg Decoded.value (ofInteger_toInt n)
  | double d =>
      by_cases finite : d.isFinite = true
      · rw [toJson, untyped, if_pos finite, if_pos finite]
        rfl
      · rw [toJson, untyped, if_neg finite, if_neg finite]
        rfl
  | option code =>
      have same := ofInteger_toInt (Int64.ofInt code.toInt)
      rw [toInt_ofInt_optionCode] at same
      exact congrArg Decoded.value same
  | json raw =>
      obtain ⟨compound, read⟩ := canonical
      rw [toJson, decode, read]
      exact congrArg Decoded.value compound

/-- What is taken over from JSON that was read is an array or an object that was read. -/
theorem isCanonical_ofJson {raw : Json} (read : Decode.json raw.toDocument = .value raw) :
    (ofJson raw).IsCanonical := by
  cases raw with
  | null | boolean _ | double _ | string _ => trivial
  | integer n =>
      rw [ofJson, ofInteger]
      split <;> trivial
  | array items => exact ⟨rfl, read⟩
  | object members => exact ⟨rfl, read⟩

end Value

/-! ## Records -/

/-- The values of the record were read. -/
def Record.IsCanonical (r : Record) : Prop :=
  ∀ entry ∈ r.entries, Decode.json entry.2.toDocument = .value entry.2

theorem Record.isCanonical_of_decode {d : Document} {r : Record}
    (decoded : Record.decode d = .value r) : r.IsCanonical := by
  intro entry member
  obtain ⟨part, -, read⟩ := Decode.exists_part_of_nameMap decoded entry member
  exact Decode.json_toDocument_of_json part read

/-- Coercion takes arrays and objects over as they are. -/
theorem AttributeMetadata.isCanonical_of_coerced? {a : AttributeMetadata} {raw : Json} {v : Value}
    (canonical : Decode.json raw.toDocument = .value raw) (coerced : a.coerced? raw = some v) :
    v.IsCanonical := by
  unfold coerced? at coerced
  split at coerced
  · cases coerced
    trivial
  · split at coerced
    case h_5 => exact Option.some.inj coerced ▸ Value.isCanonical_ofJson canonical
    all_goals
      obtain ⟨typed, -, rfl⟩ := Option.map_eq_some_iff.mp coerced
      trivial

/-- Whatever the type of an attribute is, its value is canonical. -/
theorem AttributeMetadata.isCanonical_of_read {a : AttributeMetadata} {m : EntityMetadata}
    {mode : CoercionMode} {raw : Json} {v : Value}
    (canonical : Decode.json raw.toDocument = .value raw) (read : a.read m mode raw = .ok v) :
    v.IsCanonical := by
  unfold AttributeMetadata.read at read
  split at read
  · obtain ⟨id, -, rfl⟩ := ok_of_map_eq_ok read
    cases id <;> trivial
  · split at read
    · exact Except.ok.inj read ▸ Value.isCanonical_ofJson canonical
    · unfold coerce at read
      split at read
      · rename_i value coerced
        exact Except.ok.inj read ▸ isCanonical_of_coerced? canonical coerced
      · cases read

/-! ## Entities -/

namespace Entity

/-- The arrays and objects among the values of the entity were read. -/
def IsCanonical (e : Entity) : Prop :=
  ∀ entry ∈ e.attributes.entries, entry.2.IsCanonical

/-- What the JSON form of an entity is read as. -/
def untyped (e : Entity) : Entity :=
  { e with attributes := e.attributes.mapValues Value.untyped }

/-- An entity that is read from JSON has arrays and objects that were read. -/
theorem isCanonical_of_ofRecord {m : EntityMetadata} {mode : CoercionMode} {r : Record} {e : Entity}
    (canonical : r.IsCanonical) (read : ofRecord m mode r = .ok e) : e.IsCanonical := by
  obtain ⟨entries, readAll, -, attributes, -⟩ := entries_of_ofRecord read
  intro entry member
  have found := NameMap.find?_of_mem member
  rw [attributes] at found
  have written : entry ∈ entries := List.mem_reverse.mp (mem_of_valueUnder? found)
  obtain ⟨⟨a, raw⟩, given, readEntry⟩ := exists_beside_right readAll written
  obtain ⟨v, readValue, rfl⟩ := ok_of_map_eq_ok readEntry
  obtain ⟨-, present⟩ := Record.mem_filterMap_given?.mp given
  exact a.isCanonical_of_read (canonical _ (mem_of_valueUnder? present)) readValue

theorem toJson_untyped (e : Entity) : e.untyped.toJson = e.toJson := by
  have values : e.untyped.attributes.entries.map (fun entry => (entry.1, entry.2.toJson)) =
      e.attributes.entries.map fun entry => (entry.1, entry.2.toJson) := by
    change (e.attributes.entries.map _).map _ = _
    rw [List.map_map]
    exact List.map_congr_left fun entry _ => congrArg (entry.1, ·) entry.2.toJson_untyped
  rw [toJson, values]
  rfl

/-- An entity is read from its JSON form as what JSON tells of it. -/
theorem decode_toJson {e : Entity} (canonical : e.IsCanonical) :
    decode e.toJson.toDocument = .value e.untyped := by
  have attributes : Decode.nameMap Value.decode (Json.object
      (e.attributes.entries.map fun entry => (entry.1, entry.2.toJson))).toDocument =
        .value (e.attributes.mapValues Value.untyped) :=
    Decode.nameMap_object Value.toJson Value.untyped fun entry member =>
      Value.decode_toJson (canonical entry member)
  have id : Decode.ofText Uuid.read? (Json.string e.id.text).toDocument = .value e.id := by
    rw [Json.toDocument, Decode.ofText, Uuid.read?_text]
  simp [toJson, decode, untyped, Decode.structure_object, Fields.required_written, valueUnder?,
    attributes, id]

end Entity

/-! ## Pages -/

namespace EntityCollection

/-- What the JSON form of a page is read as. -/
def untyped (c : EntityCollection) : EntityCollection :=
  { c with entities := c.entities.map Entity.untyped }

/-- A page and what its JSON form is read as have the same JSON form. -/
theorem toJson_untyped (c : EntityCollection) : c.untyped.toJson = c.toJson := by
  have entities : c.untyped.entities.map Entity.toJson = c.entities.map Entity.toJson := by
    rw [untyped, List.map_map]
    exact List.map_congr_left fun e _ => e.toJson_untyped
  rw [toJson, entities]
  rfl

/-- A page is read back with its values untyped, and otherwise as it was. -/
theorem decode_toJson {c : EntityCollection} (canonical : ∀ e ∈ c.entities, e.IsCanonical) :
    decode c.toJson.toDocument = .value c.untyped := by
  have entities := Decode.list_array Entity.toJson Entity.untyped fun e member =>
    Entity.decode_toJson (canonical e member)
  simp [toJson, decode, untyped, Decode.structure_object, Fields.required_written,
    Fields.nullIfUnnamed_written, Fields.withDefault_written, valueUnder?, entities]

end EntityCollection

end EntityGateway
