import EntityGateway.Proofs.NameMap
import EntityGateway.Proofs.Outcome
import EntityGateway.Query.Compile
import Mathlib.Data.List.Nodup

/-!
# Laws of metadata

A name is looked up to the first attribute that has it, which is the only one if names are distinct.
Logical and external names are translated into each other by such a lookup each, and a translation
there and back leads to the same name if the names that the way back looks up are distinct.
Metadata that was put together entity by entity keeps each entity under its logical name
(`Metadata.IsKeyed`).
-/

namespace EntityGateway

/-! ## Attributes by name -/

namespace EntityMetadata

variable {m : EntityMetadata} {a : AttributeMetadata} {name external : String}

/-- No two attributes have the same logical name. -/
def HasDistinctNames (m : EntityMetadata) : Prop :=
  (m.attributes.map AttributeMetadata.logicalName).Nodup

/-- No two attributes have the same external name. -/
def HasDistinctExternalNames (m : EntityMetadata) : Prop :=
  (m.attributes.map AttributeMetadata.externalName).Nodup

/-! Both lookups are one search, by either name of an attribute. -/

section Search

variable {attributes : List AttributeMetadata} {nameOf : AttributeMetadata → String}

theorem of_find?_named (found : attributes.find? (fun a => nameOf a = name) = some a) :
    a ∈ attributes ∧ nameOf a = name := by
  have named := List.find?_some found
  exact ⟨List.mem_of_find?_eq_some found, of_decide_eq_true named⟩

theorem find?_named_eq_none_iff : attributes.find? (fun a => nameOf a = name) = none ↔
    ∀ a ∈ attributes, nameOf a ≠ name := by
  rw [List.find?_eq_none]
  exact forall₂_congr fun a _ => not_congr decide_eq_true_iff

/-- Where no two attributes have one name, each is found by its own: what is found has the same
name, so it is the same attribute. -/
theorem find?_named_of_mem (distinct : (attributes.map nameOf).Nodup) (member : a ∈ attributes) :
    attributes.find? (fun b => nameOf b = nameOf a) = some a := by
  have present : (attributes.find? fun b => nameOf b = nameOf a).isSome = true :=
    List.find?_isSome.mpr ⟨a, member, decide_eq_true rfl⟩
  obtain ⟨b, found⟩ := Option.isSome_iff_exists.mp present
  obtain ⟨member', named⟩ := of_find?_named found
  exact List.inj_on_of_nodup_map distinct member' member named ▸ found

end Search

theorem of_attribute? (found : m.attribute? name = some a) :
    a ∈ m.attributes ∧ a.logicalName = name :=
  of_find?_named found

theorem of_externalAttribute? (found : m.externalAttribute? external = some a) :
    a ∈ m.attributes ∧ a.externalName = external :=
  of_find?_named found

theorem attribute?_eq_none_iff :
    m.attribute? name = none ↔ ∀ a ∈ m.attributes, a.logicalName ≠ name :=
  find?_named_eq_none_iff

theorem externalAttribute?_eq_none_iff :
    m.externalAttribute? external = none ↔ ∀ a ∈ m.attributes, a.externalName ≠ external :=
  find?_named_eq_none_iff

/-- Where logical names are distinct, each attribute is looked up by its own. -/
theorem attribute?_of_mem (distinct : m.HasDistinctNames) (member : a ∈ m.attributes) :
    m.attribute? a.logicalName = some a :=
  find?_named_of_mem distinct member

/-- Where external names are distinct, each attribute is looked up by its own. -/
theorem externalAttribute?_of_mem (distinct : m.HasDistinctExternalNames)
    (member : a ∈ m.attributes) : m.externalAttribute? a.externalName = some a :=
  find?_named_of_mem distinct member

theorem attributeNamed_eq_ok_iff : m.attributeNamed name = .ok a ↔ m.attribute? name = some a := by
  rw [attributeNamed]
  cases m.attribute? name <;> simp

/-- A name in a query is looked up to the first attribute that has it. -/
theorem attribute?_of_lookup (found : m.lookup name = .ok a) : m.attribute? name = some a :=
  attributeNamed_eq_ok_iff.mp (ok_of_mapError_eq_ok found)

/-- The attribute that a name is looked up to is one of the entity's. -/
theorem mem_attributes_of_lookup (m : EntityMetadata) (found : m.lookup name = .ok a) :
    a ∈ m.attributes :=
  (of_attribute? (attribute?_of_lookup found)).1

theorem primaryId_of_attribute? (found : m.attribute? m.primaryIdAttribute = some a) :
    m.primaryId = .ok a :=
  attributeNamed_eq_ok_iff.mpr found

/-! ## Translating names -/

/-- A logical name is translated to the external name of the attribute that it is looked up to. -/
theorem toExternal_eq_ok_iff : m.toExternal name = .ok external ↔
    ∃ a, m.attribute? name = some a ∧ a.externalName = external := by
  constructor
  · intro known
    obtain ⟨a, found, named⟩ := ok_of_map_eq_ok known
    exact ⟨a, attributeNamed_eq_ok_iff.mp found, named⟩
  · rintro ⟨a, found, rfl⟩
    rw [toExternal, attributeNamed_eq_ok_iff.mpr found]
    rfl

/-- An external name is translated to the logical name of the attribute that it is looked up to. -/
theorem toLogical_eq_ok_iff : m.toLogical external = .ok name ↔
    ∃ a, m.externalAttribute? external = some a ∧ a.logicalName = name := by
  rw [toLogical]
  cases m.externalAttribute? external <;> simp

/-- A logical name cannot be translated exactly if no attribute has it. -/
theorem toExternal_eq_error_iff {fault : UnknownAttribute} : m.toExternal name = .error fault ↔
    (∀ a ∈ m.attributes, a.logicalName ≠ name) ∧ fault = ⟨m.logicalName, name⟩ := by
  rw [← attribute?_eq_none_iff, toExternal, attributeNamed]
  cases m.attribute? name <;> simp [Except.map, eq_comm]

/-- An external name cannot be translated exactly if no attribute has it. -/
theorem toLogical_eq_error_iff {fault : UnknownAttribute} : m.toLogical external = .error fault ↔
    (∀ a ∈ m.attributes, a.externalName ≠ external) ∧ fault = ⟨m.logicalName, external⟩ := by
  rw [← externalAttribute?_eq_none_iff, toLogical]
  cases m.externalAttribute? external <;> simp [eq_comm]

theorem attribute?_of_externalFor (known : m.externalFor name = .ok external) :
    ∃ a, m.attribute? name = some a ∧ a.externalName = external :=
  toExternal_eq_ok_iff.mp (ok_of_mapError_eq_ok known)

/-- The way back looks up logical names only, so external names may be shared. -/
theorem toExternal_of_toLogical (distinct : m.HasDistinctNames)
    (known : m.toLogical external = .ok name) : m.toExternal name = .ok external := by
  obtain ⟨a, found, rfl⟩ := toLogical_eq_ok_iff.mp known
  obtain ⟨member, named⟩ := of_externalAttribute? found
  exact toExternal_eq_ok_iff.mpr ⟨a, attribute?_of_mem distinct member, named⟩

/-- The way back looks up external names only, so logical names may be repeated. -/
theorem toLogical_of_toExternal (distinct : m.HasDistinctExternalNames)
    (known : m.toExternal name = .ok external) : m.toLogical external = .ok name := by
  obtain ⟨a, found, rfl⟩ := toExternal_eq_ok_iff.mp known
  obtain ⟨member, named⟩ := of_attribute? found
  exact toLogical_eq_ok_iff.mpr ⟨a, externalAttribute?_of_mem distinct member, named⟩

/-- An external name that can be translated is what its translation is translated back to, if
logical names are distinct, and a logical name is, if external names are. A name cannot be
translated exactly if no attribute has it, and this is then reported with the name and the entity's
own logical name. -/
theorem names_translateBack (m : EntityMetadata) :
    (m.HasDistinctNames → ∀ external name,
      m.toLogical external = .ok name → m.toExternal name = .ok external) ∧
    (m.HasDistinctExternalNames → ∀ name external,
      m.toExternal name = .ok external → m.toLogical external = .ok name) ∧
    (∀ name fault, m.toExternal name = .error fault ↔
      (∀ a ∈ m.attributes, a.logicalName ≠ name) ∧ fault = ⟨m.logicalName, name⟩) ∧
    (∀ external fault, m.toLogical external = .error fault ↔
      (∀ a ∈ m.attributes, a.externalName ≠ external) ∧ fault = ⟨m.logicalName, external⟩) :=
  ⟨fun distinct _ _ known => toExternal_of_toLogical distinct known,
    fun distinct _ _ known => toLogical_of_toExternal distinct known,
    fun _ _ => toExternal_eq_error_iff, fun _ _ => toLogical_eq_error_iff⟩

/-- Books whose second title is kept where the first one is. -/
def subtitledBook : EntityMetadata where
  logicalName := "book"
  externalName := "volume"
  externalCollectionName := "volumes"
  primaryIdAttribute := "id"
  attributes := [⟨"id", "bookid", .uniqueidentifier⟩, ⟨"title", "name", .string⟩,
    ⟨"subtitle", "name", .string⟩]

/-- Two titles with one property: the name of the property leads to the first title and back, and
the second title does not come back. -/
theorem names_translateBack_subtitledBook :
    let shared := subtitledBook
    let single := { shared with attributes := shared.attributes.take 2 }
    shared.HasDistinctNames ∧ shared.toExternal "subtitle" = .ok "name" ∧
    shared.toLogical "name" = .ok "title" ∧ shared.toExternal "title" = .ok "name" ∧
    shared.toExternal "name" = .error ⟨"book", "name"⟩ ∧
    single.HasDistinctExternalNames ∧ single.toExternal "title" = .ok "name" ∧
    single.toLogical "name" = .ok "title" ∧
    single.toLogical "title" = .error ⟨"book", "title"⟩ := by
  intro shared single
  have distinct : shared.HasDistinctNames := by
    unfold HasDistinctNames
    decide
  have distinctExternal : single.HasDistinctExternalNames := by
    unfold HasDistinctExternalNames
    decide
  have unknown : ∀ a ∈ shared.attributes, a.logicalName ≠ "name" := by decide
  have unknownExternal : ∀ a ∈ single.attributes, a.externalName ≠ "title" := by decide
  obtain ⟨back, -, failed, -⟩ := names_translateBack shared
  obtain ⟨-, backExternal, -, failedExternal⟩ := names_translateBack single
  exact ⟨distinct, rfl, rfl, back distinct _ _ rfl, (failed _ _).mpr ⟨unknown, rfl⟩,
    distinctExternal, rfl, backExternal distinctExternal _ _ rfl,
    (failedExternal _ _).mpr ⟨unknownExternal, rfl⟩⟩

end EntityMetadata

/-! ## Entities by name -/

/-- Each entity is kept under its logical name. -/
def Metadata.IsKeyed (m : Metadata) : Prop :=
  ∀ name e, m.entity? name = some e → e.logicalName = name

namespace Metadata

theorem isKeyed_empty : empty.IsKeyed :=
  nofun

/-- An entity is added under its own logical name. -/
theorem IsKeyed.insert {m : Metadata} (keyed : m.IsKeyed) (e : EntityMetadata) :
    (m.insert e).IsKeyed := by
  intro name e' found
  rw [entity?, Metadata.insert, NameMap.find?_insert] at found
  split at found
  · rename_i here
    cases found
    exact here
  · exact keyed name e' found

/-- Metadata that is put together from entities is keyed, however many of them have one name. -/
theorem isKeyed_ofEntities (entities : List EntityMetadata) : (ofEntities entities).IsKeyed := by
  induction entities using List.reverseRecOn with
  | nil => exact isKeyed_empty
  | append_singleton entities e ih =>
      rw [ofEntities, List.foldl_append]
      exact ih.insert e

end Metadata

end EntityGateway
