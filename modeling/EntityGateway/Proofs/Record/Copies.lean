import EntityGateway.Proofs.Json.Numbers
import EntityGateway.Proofs.Metadata
import EntityGateway.Proofs.Number.ReadBack
import EntityGateway.Proofs.Record.Outcome

/-!
# Copied values

Where only the identifier of a record is read by its type, all other values are copied. A copy has
the JSON form that it was made from, whatever kind of value it is and however deep it is nested,
with one exception: an integer that has no room in sixty-three bits is carried as a decimal, and
decimals have the JSON form of a string. So such an integer comes out as the string of its digits
(`Json.copied`).

What this supposes of a value is that its numbers are numbers of JSON, which is true of every record
that was read from a text (`Record.isProper_of_decode`).
-/

namespace EntityGateway

variable {m : EntityMetadata} {mode : CoercionMode} {r : Record} {e : Entity}
  {a : AttributeMetadata} {raw : Json}

/-- The JSON form of the copy of a value. -/
def Json.copied : Json → Json
  | integer n => if (Nat.pow 2 63 : Int) ≤ n then string (Value.integerText n) else integer n
  | raw => raw

theorem Record.isProper_of_decode {d : Document} {name : String} (proper : d.isProper = true)
    (decoded : Record.decode d = .value r) (found : r.find? name = some raw) :
    raw.isProper = true := by
  obtain ⟨part, partProper, read⟩ :=
    Decode.exists_part_of_nameMap decoded _ (mem_of_valueUnder? found)
  exact Decode.isProper_of_json part (partProper proper) read

/-! ## Copies of values -/

theorem Value.toJson_ofInteger {n : Int} (least : -(Nat.pow 2 63 : Int) ≤ n)
    (bound : n < Nat.pow 2 64) : (ofInteger n).toJson = (Json.integer n).copied := by
  rcases ofInteger_cases least bound with ⟨i, rfl, given⟩ | ⟨u, rfl, large, given⟩
  · have small : ¬ (Nat.pow 2 63 : Int) ≤ i.toInt := Int.not_le.mpr i.toInt_lt
    rw [given, toJson, Json.copied, if_neg small]
  · have large : (Nat.pow 2 63 : Int) ≤ u.toNat := Int.ofNat_le.mpr large
    have positive : ¬ (u.toNat : Int) < 0 := Int.not_lt.mpr (Int.natCast_nonneg _)
    rw [given, toJson, Decimal.text_ofUInt64, Json.copied, if_pos large, integerText,
      if_neg positive, Int.natAbs_natCast]

theorem Value.toJson_ofJson (proper : raw.isProper = true) : (ofJson raw).toJson = raw.copied := by
  cases raw with
  | integer n =>
      obtain ⟨least, bound⟩ := Bool.and_eq_true_iff.mp proper
      exact toJson_ofInteger (of_decide_eq_true least) (of_decide_eq_true bound)
  | double d =>
      have finite : d.isFinite = true := proper
      exact if_pos finite
  | null | boolean _ | string _ | array _ | object _ => rfl

/-! ## Copies in entities -/

/-- If logical names are distinct, an attribute is the last one of its name. -/
theorem EntityMetadata.HasDistinctNames.isLastOf (distinct : m.HasDistinctNames)
    (member : a ∈ m.attributes) (found : r.find? a.externalName = some raw) :
    IsLastOf (r.Supplies a.logicalName) m.attributes a := by
  have supplied : r.Supplies a.logicalName a := ⟨rfl, raw, found⟩
  obtain ⟨b, last⟩ := exists_isLastOf ⟨a, member, supplied⟩
  obtain ⟨member', named, -⟩ := last.mem
  obtain rfl := List.inj_on_of_nodup_map distinct member' member named
  exact last

/-- The member of an object among the members of another. -/
theorem valueUnder?_map {α β : Type} (f : α → β) (name : String) (entries : List (String × α)) :
    valueUnder? name (entries.map fun entry => (entry.1, f entry.2)) =
      (valueUnder? name entries).map f := by
  induction entries with
  | nil => rfl
  | cons entry rest ih =>
      rw [List.map_cons, valueUnder?, valueUnder?, ih]
      split <;> rfl

namespace Entity

/-- What the JSON form of an entity has under the name of an attribute. -/
theorem member?_toJson (e : Entity) (name : String) :
    (e.toJson.member? "attributes").bind (Json.member? name) =
      (e.attributes.find? name).map Value.toJson :=
  valueUnder?_map Value.toJson name e.attributes.entries

/-- An attribute other than the identifier has the copy of its value. -/
theorem find?_of_copied (distinct : m.HasDistinctNames)
    (read : ofRecord m .primaryIdOnly r = .ok e) (member : a ∈ m.attributes)
    (other : a.logicalName ≠ m.primaryIdAttribute) (found : r.find? a.externalName = some raw) :
    e.attributes.find? a.logicalName = some (Value.ofJson raw) := by
  obtain ⟨value, readValue, under⟩ := (isReadFrom_of_ofRecord read).values _ a raw
    (distinct.isLastOf member found) found
  rw [AttributeMetadata.read, if_neg other] at readValue
  cases readValue
  exact under

/-- Copying loses nothing: what an entity has under the name of an attribute other than the
identifier has the JSON form that the record has for the attribute, by itself and within the JSON
form of the entity. Only an integer beyond sixty-three bits becomes the string of its digits. -/
theorem toJson_of_copied (distinct : m.HasDistinctNames)
    (read : ofRecord m .primaryIdOnly r = .ok e) (member : a ∈ m.attributes)
    (other : a.logicalName ≠ m.primaryIdAttribute) (found : r.find? a.externalName = some raw)
    (proper : raw.isProper = true) :
    ∃ value, e.attributes.find? a.logicalName = some value ∧ value.toJson = raw.copied ∧
      (e.toJson.member? "attributes").bind (Json.member? a.logicalName) = some raw.copied := by
  have under := find?_of_copied distinct read member other found
  have form := Value.toJson_ofJson proper
  refine ⟨_, under, form, ?_⟩
  rw [member?_toJson, under, ← form]
  rfl

/-- Goods, two of whose attributes are kept under one external name. -/
def stockedGood : EntityMetadata where
  logicalName := "good"
  externalName := "good"
  externalCollectionName := "goods"
  primaryIdAttribute := "id"
  attributes := [⟨"stock", "Stock", .bigInt⟩, ⟨"id", "Id", .uniqueidentifier⟩,
    ⟨"stocked", "Stock", .dateTime⟩, ⟨"parts", "Parts", .picklist⟩]

/-- The parts of a good. -/
def goodParts : Json :=
  .array [.object [("of", .double ⟨0⟩)], .integer 18446744073709551615]

/-- A record of a good of which there are as many as an integer can say. -/
def goodRecord : Record :=
  .ofList [("Stock", .integer 18446744073709551615), ("Parts", goodParts)]

theorem toJson_of_copied_good :
    let stocked : AttributeMetadata := ⟨"stocked", "Stock", .dateTime⟩
    stockedGood.HasDistinctNames ∧ stocked ∈ stockedGood.attributes ∧
      stocked.logicalName ≠ stockedGood.primaryIdAttribute ∧
      goodRecord.find? stocked.externalName = some (.integer 18446744073709551615) ∧
      (Json.integer 18446744073709551615).isProper = true ∧ goodParts.isProper = true ∧
      ∃ e, ofRecord stockedGood .primaryIdOnly goodRecord = .ok e ∧
        (∃ value, e.attributes.find? "stocked" = some value ∧
          value.toJson = .string "18446744073709551615") ∧
        ∃ value, e.attributes.find? "parts" = some value ∧ value.toJson = goodParts := by
  intro stocked
  have distinct : stockedGood.HasDistinctNames := by
    unfold EntityMetadata.HasDistinctNames
    decide +kernel
  have member : stocked ∈ stockedGood.attributes := by decide
  have other : stocked.logicalName ≠ stockedGood.primaryIdAttribute := by decide
  have proper : (Json.integer 18446744073709551615).isProper = true := by decide +kernel
  have partsProper : goodParts.isProper = true := by decide +kernel
  have found : goodRecord.find? stocked.externalName = some (.integer 18446744073709551615) := rfl
  obtain ⟨e, read⟩ : ∃ e, ofRecord stockedGood .primaryIdOnly goodRecord = .ok e := ⟨_, rfl⟩
  obtain ⟨stock, underStocked, stockForm, -⟩ :=
    toJson_of_copied distinct read member other found proper
  obtain ⟨value, underParts, partsForm, -⟩ :=
    toJson_of_copied (a := ⟨"parts", "Parts", .picklist⟩) distinct read (by decide) (by decide) rfl
      partsProper
  exact ⟨distinct, member, other, found, proper, partsProper, e, read,
    ⟨stock, underStocked, stockForm⟩, value, underParts, partsForm⟩

/-- An integer beyond sixty-three bits is not copied as it is. -/
theorem copy_of_large_integer_is_string :
    (∃ e value, ofRecord stockedGood .primaryIdOnly goodRecord = .ok e ∧
      e.attributes.find? "stock" = some value ∧
      value.toJson = .string "18446744073709551615") ∧
    ¬ ∀ m r e a raw, m.HasDistinctNames → ofRecord m .primaryIdOnly r = .ok e →
      a ∈ m.attributes → a.logicalName ≠ m.primaryIdAttribute →
      r.find? a.externalName = some raw → raw.isProper = true →
      ∃ value, e.attributes.find? a.logicalName = some value ∧ value.toJson = raw := by
  have distinct : stockedGood.HasDistinctNames := by
    unfold EntityMetadata.HasDistinctNames
    decide +kernel
  have proper : (Json.integer 18446744073709551615).isProper = true := by decide +kernel
  obtain ⟨e, read⟩ : ∃ e, ofRecord stockedGood .primaryIdOnly goodRecord = .ok e := ⟨_, rfl⟩
  have under := find?_of_copied (a := ⟨"stock", "Stock", .bigInt⟩) distinct read (by decide)
    (by decide) rfl
  have form : (Value.ofJson (.integer 18446744073709551615)).toJson =
      .string "18446744073709551615" := Value.toJson_ofJson proper
  refine ⟨⟨e, _, read, under, form⟩, fun law => ?_⟩
  obtain ⟨value, under', same⟩ := law _ _ _ ⟨"stock", "Stock", .bigInt⟩ _ distinct read (by decide)
    (by decide) rfl proper
  cases under.symm.trans under'
  cases form.symm.trans same

end Entity

end EntityGateway
