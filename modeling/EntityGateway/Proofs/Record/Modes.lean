import EntityGateway.Proofs.Coercion
import EntityGateway.Proofs.Record.Outcome

/-!
# One record in two modes

A record whose values are all read by their types can as well be copied, and the two entities differ
in nothing but the values that a type changes (`ofRecord_modes`). Both modes go over the same
attributes in the same order, and each value is read on its own; so it is enough to compare what the
modes make of one value (`AttributeMetadata.read_modes`). The identifier is read alike in both, and
a value of a type that is not recognised is copied in both.
-/

namespace EntityGateway

variable {m : EntityMetadata} {r : Record} {e e' : Entity} {a : AttributeMetadata} {raw : Json}
  {v : Value} {fault : UnreadableValue}

namespace AttributeMetadata

/-- The values of the attribute are changed by its type when every value is read by its type. -/
def IsConverted (a : AttributeMetadata) (m : EntityMetadata) : Prop :=
  a.logicalName ≠ m.primaryIdAttribute ∧ a.type ∈ recognisedTypes

/-- A value of a type that is not recognised is copied, and so is null. -/
theorem coerce_of_copied (copied : raw = .null ∨ a.type ∉ recognisedTypes) :
    a.coerce raw = .ok (Value.ofJson raw) := by
  obtain ⟨logicalName, externalName, type⟩ := a
  cases raw with
  | null => rfl
  | _ =>
      have other : type ∉ recognisedTypes := copied.resolve_left nofun
      cases type
      case picklist | uniqueidentifier | dateTime | money => exact absurd (by decide) other
      all_goals rfl

/-- A value that is read by its type can be copied, and only a conversion makes a difference. -/
theorem read_modes (read : a.read m .allAttributes raw = .ok v) :
    ∃ copy, a.read m .primaryIdOnly raw = .ok copy ∧
      (v = copy ∨ a.IsConverted m ∧ raw ≠ .null) := by
  by_cases primary : a.logicalName = m.primaryIdAttribute
  · rw [AttributeMetadata.read, if_pos primary] at read
    exact ⟨v, by rw [AttributeMetadata.read, if_pos primary, read], .inl rfl⟩
  · rw [AttributeMetadata.read, if_neg primary] at read
    refine ⟨Value.ofJson raw, by rw [AttributeMetadata.read, if_neg primary], ?_⟩
    by_cases copied : raw = .null ∨ a.type ∉ recognisedTypes
    · exact .inl (Except.ok.inj (read.symm.trans (coerce_of_copied copied)))
    · obtain ⟨notNull, recognised⟩ := not_or.mp copied
      exact .inr ⟨⟨primary, not_not.mp recognised⟩, notNull⟩

end AttributeMetadata

/-- What cannot be read where all other values are copied cannot be read by its type. -/
theorem Record.IsUnreadable.allAttributes (unreadable : r.IsUnreadable m .primaryIdOnly a) :
    r.IsUnreadable m .allAttributes a := by
  obtain ⟨raw, fault, found, failed⟩ := unreadable
  cases read : a.read m .allAttributes raw with
  | error fault' => exact ⟨raw, fault', found, read⟩
  | ok v =>
      obtain ⟨copy, copied, -⟩ := AttributeMetadata.read_modes read
      cases failed.symm.trans copied

namespace Entity

/-- The entities have the same attributes. They agree in all but the values that come from an
attribute whose type changes them. -/
structure AgreesWith (e e' : Entity) (m : EntityMetadata) (r : Record) : Prop where
  named : e.logicalName = e'.logicalName
  identified : e.id = e'.id
  names : ∀ name, (∃ value, e.attributes.find? name = some value) ↔
    ∃ value, e'.attributes.find? name = some value
  values : ∀ name, e.attributes.find? name = e'.attributes.find? name ∨
    ∃ a raw, IsLastOf (r.Supplies name) m.attributes a ∧ r.find? a.externalName = some raw ∧
      a.IsConverted m ∧ raw ≠ .null

theorem agreesWith_of_isReadFrom (coerced : e.IsReadFrom m .allAttributes r m.attributes)
    (copied : e'.IsReadFrom m .primaryIdOnly r m.attributes) : e.AgreesWith e' m r where
  named := coerced.named.trans copied.named.symm
  identified := coerced.id_eq copied
  names name := (coerced.names name).trans (copied.names name).symm
  values name := by
    by_cases supplied : ∃ a ∈ m.attributes, r.Supplies name a
    · obtain ⟨a, last⟩ := exists_isLastOf supplied
      obtain ⟨-, raw, found⟩ := last.mem.2
      obtain ⟨v, read, under⟩ := coerced.values name a raw last found
      obtain ⟨copy, readCopy, under'⟩ := copied.values name a raw last found
      obtain ⟨copy', readCopy', same⟩ := AttributeMetadata.read_modes read
      cases readCopy.symm.trans readCopy'
      rcases same with rfl | ⟨converted, notNull⟩
      · exact .inl (under.trans under'.symm)
      · exact .inr ⟨a, raw, last, found, converted, notNull⟩
    · exact .inl ((coerced.find?_eq_none supplied).trans (copied.find?_eq_none supplied).symm)

/-- A record that can be read by the types of all attributes can be read by the type of the
identifier alone, as an entity that agrees with the other one. So if even that fails, reading it by
all types fails. -/
theorem ofRecord_modes (m : EntityMetadata) (r : Record) :
    (∀ e, ofRecord m .allAttributes r = .ok e →
      ∃ e', ofRecord m .primaryIdOnly r = .ok e' ∧ e.AgreesWith e' m r) ∧
    ∀ fault, ofRecord m .primaryIdOnly r = .error fault →
      ∃ fault', ofRecord m .allAttributes r = .error fault' := by
  refine ⟨fun e read => ?_, fun fault failed => ?_⟩
  · have readable := exists_ofRecord_iff.mp ⟨e, read⟩
    obtain ⟨e', copied⟩ : ∃ e', ofRecord m .primaryIdOnly r = .ok e' :=
      exists_ofRecord_iff.mpr fun a member unreadable =>
        readable a member unreadable.allAttributes
    exact ⟨e', copied,
      agreesWith_of_isReadFrom (isReadFrom_of_ofRecord read) (isReadFrom_of_ofRecord copied)⟩
  · obtain ⟨a, member, unreadable⟩ := exists_fault_iff.mp ⟨fault, failed⟩
    exact exists_fault_iff.mpr ⟨a, member, unreadable.allAttributes⟩

/-- Loans, two attributes of which have one name. -/
def lentBook : EntityMetadata where
  logicalName := "loan"
  externalName := "loan"
  externalCollectionName := "loans"
  primaryIdAttribute := "id"
  attributes := [⟨"shelf", "Place", .memo⟩, ⟨"shelf", "Shelf", .picklist⟩,
    ⟨"due", "Due", .dateTime⟩, ⟨"id", "Id", .uniqueidentifier⟩, ⟨"title", "Title", .string⟩]

/-- A loan without a date. -/
def lentRecord : Record :=
  .ofList [("Id", .string "00000000-0000-0000-0000-00000000000a"), ("Due", .null),
    ("Shelf", .integer 7), ("Place", .string "left"), ("Title", .string "Emma")]

/-- A loan that cannot be told from others. -/
def unnumberedRecord : Record :=
  .ofList [("Id", .integer 10), ("Shelf", .integer 7)]

theorem ofRecord_modes_lentBook :
    (∃ e e', ofRecord lentBook .allAttributes lentRecord = .ok e ∧
      ofRecord lentBook .primaryIdOnly lentRecord = .ok e' ∧ e.AgreesWith e' lentBook lentRecord ∧
      e.attributes.find? "shelf" = some (.option 7) ∧
      e'.attributes.find? "shelf" = some (.integer 7)) ∧
    (∃ fault, ofRecord lentBook .primaryIdOnly unnumberedRecord = .error fault) ∧
    ∃ fault, ofRecord lentBook .allAttributes unnumberedRecord = .error fault := by
  obtain ⟨e, read, shelf⟩ : ∃ e, ofRecord lentBook .allAttributes lentRecord = .ok e ∧
      e.attributes.find? "shelf" = some (.option 7) := ⟨_, rfl, rfl⟩
  obtain ⟨copies, -⟩ := ofRecord_modes lentBook lentRecord
  obtain ⟨e', copied, agrees⟩ := copies e read
  obtain ⟨fault, failed⟩ : ∃ fault,
      ofRecord lentBook .primaryIdOnly unnumberedRecord = .error fault := ⟨_, rfl⟩
  obtain ⟨-, fails⟩ := ofRecord_modes lentBook unnumberedRecord
  refine ⟨⟨e, e', read, copied, agrees, shelf, ?_⟩, ⟨fault, failed⟩, fails fault failed⟩
  cases copied
  rfl

end Entity

end EntityGateway
