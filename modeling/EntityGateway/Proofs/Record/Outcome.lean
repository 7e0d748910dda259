import EntityGateway.Proofs.Record.Reading

/-!
# The outcome of reading a record

Reading a record goes over the attributes once, with an entity in hand that every attribute may
change. What holds at each point is that the entity is the one of the attributes passed so far
(`Entity.IsReadFrom`): under a logical name it has the value of the last of them that the record has
a value for, and its identifier is the last one that was no null. As this determines the entity, it
says exactly what a record is read as (`Entity.ofRecord_outcome`).
-/

namespace EntityGateway

/-! ## The first and the last of some items -/

section Positions

variable {α : Type} {p : α → Prop} {as : List α} {a b : α}

/-- The item has a property that no item before it has. -/
def IsFirstOf (p : α → Prop) (as : List α) (a : α) : Prop :=
  ∃ before after, as = before ++ a :: after ∧ p a ∧ ∀ b ∈ before, ¬ p b

/-- The item has a property that no item after it has. -/
def IsLastOf (p : α → Prop) (as : List α) (a : α) : Prop :=
  ∃ before after, as = before ++ a :: after ∧ p a ∧ ∀ b ∈ after, ¬ p b

/-- The first item with a property is found from the front. -/
theorem isFirstOf_cons_iff :
    IsFirstOf p (b :: as) a ↔ p b ∧ a = b ∨ ¬ p b ∧ IsFirstOf p as a := by
  constructor
  · rintro ⟨before, after, parts, here, none⟩
    cases before with
    | nil =>
        obtain ⟨rfl, -⟩ := List.cons.inj parts
        exact .inl ⟨here, rfl⟩
    | cons first before =>
        obtain ⟨rfl, rest⟩ := List.cons.inj parts
        obtain ⟨notFirst, notBefore⟩ := List.forall_mem_cons.mp none
        exact .inr ⟨notFirst, before, after, rest, here, notBefore⟩
  · rintro (⟨here, rfl⟩ | ⟨notFirst, before, after, rfl, here, none⟩)
    · exact ⟨[], as, rfl, here, by simp⟩
    · exact ⟨b :: before, after, rfl, here, List.forall_mem_cons.mpr ⟨notFirst, none⟩⟩

/-- The last item with a property is found from the end. -/
theorem isLastOf_concat_iff :
    IsLastOf p (as ++ [b]) a ↔ p b ∧ a = b ∨ ¬ p b ∧ IsLastOf p as a := by
  constructor
  · rintro ⟨before, after, parts, here, none⟩
    rcases List.eq_nil_or_concat after with rfl | ⟨after, last, rfl⟩
    · obtain ⟨-, same⟩ := List.append_inj' parts rfl
      cases same
      exact .inl ⟨here, rfl⟩
    · rw [List.concat_eq_append] at parts none
      rw [← List.cons_append, ← List.append_assoc] at parts
      obtain ⟨rfl, same⟩ := List.append_inj' parts rfl
      cases same
      obtain ⟨notAfter, notLast⟩ := List.forall_mem_append.mp none
      exact .inr ⟨notLast b List.mem_cons_self, before, after, rfl, here, notAfter⟩
  · rintro (⟨here, rfl⟩ | ⟨notLast, before, after, rfl, here, none⟩)
    · exact ⟨as, [], rfl, here, by simp⟩
    · refine ⟨before, after ++ [b], by simp, here, ?_⟩
      exact List.forall_mem_append.mpr ⟨none, List.forall_mem_singleton.mpr notLast⟩

theorem IsFirstOf.mem (first : IsFirstOf p as a) : a ∈ as ∧ p a := by
  obtain ⟨before, after, rfl, here, -⟩ := first
  exact ⟨List.mem_append_right _ List.mem_cons_self, here⟩

theorem IsLastOf.mem (last : IsLastOf p as a) : a ∈ as ∧ p a := by
  obtain ⟨before, after, rfl, here, -⟩ := last
  exact ⟨List.mem_append_right _ List.mem_cons_self, here⟩

theorem exists_isFirstOf (some : ∃ a ∈ as, p a) : ∃ a, IsFirstOf p as a := by
  induction as with
  | nil => simp at some
  | cons b as ih =>
      by_cases first : p b
      · exact ⟨b, isFirstOf_cons_iff.mpr (.inl ⟨first, rfl⟩)⟩
      · obtain ⟨a, member, here⟩ := some
        have later : a ∈ as :=
          (List.mem_cons.mp member).resolve_left fun same => first (same ▸ here)
        obtain ⟨a, found⟩ := ih ⟨a, later, here⟩
        exact ⟨a, isFirstOf_cons_iff.mpr (.inr ⟨first, found⟩)⟩

/-- If some item has a property, one is the last that has it. -/
theorem exists_isLastOf (some : ∃ a ∈ as, p a) : ∃ a, IsLastOf p as a := by
  induction as using List.reverseRecOn with
  | nil => simp at some
  | append_singleton as b ih =>
      by_cases last : p b
      · exact ⟨b, isLastOf_concat_iff.mpr (.inl ⟨last, rfl⟩)⟩
      · obtain ⟨a, member, here⟩ := some
        have earlier : a ∈ as := (List.mem_append.mp member).resolve_right fun isLast =>
          last (List.mem_singleton.mp isLast ▸ here)
        obtain ⟨a, found⟩ := ih ⟨a, earlier, here⟩
        exact ⟨a, isLastOf_concat_iff.mpr (.inr ⟨last, found⟩)⟩

end Positions

/-! ## What a record has for an attribute -/

namespace Record

/-- The attribute has the name, and the record has a value for it. -/
def Supplies (r : Record) (name : String) (a : AttributeMetadata) : Prop :=
  a.logicalName = name ∧ ∃ raw, r.find? a.externalName = some raw

/-- The attribute is a primary one, and the record has a value other than null for it. -/
def Identifies (r : Record) (m : EntityMetadata) (a : AttributeMetadata) : Prop :=
  a.logicalName = m.primaryIdAttribute ∧ ∃ raw, r.find? a.externalName = some raw ∧ raw ≠ .null

/-- The record has a value for the attribute that cannot be read. -/
def IsUnreadable (r : Record) (m : EntityMetadata) (mode : CoercionMode) (a : AttributeMetadata) :
    Prop :=
  ∃ raw fault, r.find? a.externalName = some raw ∧ a.read m mode raw = .error fault

end Record

variable {m : EntityMetadata} {mode : CoercionMode} {r : Record} {e e' : Entity}
  {a : AttributeMetadata} {raw : Json} {fault : UnreadableValue} {entry : String × Value}
  {passed rest : List AttributeMetadata}

/-- A value that cannot be read is reported with the attribute that it was read for. -/
theorem AttributeMetadata.fault_of_read (failed : a.read m mode raw = .error fault) :
    fault.attributeName = a.logicalName ∧ fault.value = raw := by
  unfold AttributeMetadata.read at failed
  split at failed
  · have failed := error_of_map_eq_error failed
    rcases a.coerceIdentifier_cases raw with ⟨-, null⟩ | ⟨s, id, -, -, found⟩ | ⟨-, fails⟩
    · cases failed.symm.trans null
    · cases failed.symm.trans found
    · cases failed.symm.trans fails
      exact ⟨rfl, rfl⟩
  · split at failed
    · cases failed
    · unfold coerce at failed
      split at failed
      · cases failed
      · cases failed
        exact ⟨rfl, rfl⟩

/-- An entry gives an identifier exactly where the record identifies the attribute. -/
theorem EntityMetadata.identifier?_of_readEntry (found : r.find? a.externalName = some raw)
    (read : m.readEntry mode (a, raw) = .ok entry) :
    (r.Identifies m a ∧ ∃ id, a.coerceIdentifier raw = .ok (some id) ∧
        m.identifier? entry = some id) ∨
      ¬ r.Identifies m a ∧ m.identifier? entry = none := by
  cases identifier : m.identifier? entry with
  | none =>
      refine .inr ⟨?_, rfl⟩
      rintro ⟨primary, raw', found', notNull⟩
      cases found.symm.trans found'
      exact notNull (of_identifier?_eq_none primary read identifier)
  | some id =>
      obtain ⟨primary, s, rfl, valid⟩ := of_identifier?_eq_some read identifier
      refine .inl ⟨⟨primary, _, found, nofun⟩, id, ?_, rfl⟩
      simp only [AttributeMetadata.coerceIdentifier, AttributeMetadata.ofText?, valid]

namespace Entity

/-! ## What holds after some attributes -/

/-- The entity is what a record is read as when only the given attributes are looked at. -/
structure IsReadFrom (e : Entity) (m : EntityMetadata) (mode : CoercionMode) (r : Record)
    (attributes : List AttributeMetadata) : Prop where
  named : e.logicalName = m.logicalName
  /-- The entity has the attributes that the record has values for, and no others. -/
  names : ∀ name, (∃ value, e.attributes.find? name = some value) ↔
    ∃ a ∈ attributes, r.Supplies name a
  /-- Of the attributes with one name the last that the record has a value for counts. -/
  values : ∀ name a raw, IsLastOf (r.Supplies name) attributes a →
    r.find? a.externalName = some raw →
    ∃ value, a.read m mode raw = .ok value ∧ e.attributes.find? name = some value
  /-- Of the identifiers that are not null the last one counts. -/
  identified : ∀ a raw, IsLastOf (r.Identifies m) attributes a →
    r.find? a.externalName = some raw → a.coerceIdentifier raw = .ok (some e.id)
  unidentified : (∀ a ∈ attributes, ¬ r.Identifies m a) → e.id = .zero

/-- Before any attribute is looked at, an entity has its name and nothing else. -/
theorem isReadFrom_new (m : EntityMetadata) (mode : CoercionMode) (r : Record) :
    (new m.logicalName).IsReadFrom m mode r [] where
  named := rfl
  names name := by simp [new, NameMap.find?, NameMap.empty, valueUnder?]
  values _ _ _ last := nomatch last.mem.1
  identified _ _ last := nomatch last.mem.1
  unidentified _ := rfl

/-- An attribute that the record has no value for changes nothing. -/
theorem IsReadFrom.pass (soFar : e.IsReadFrom m mode r passed)
    (missing : r.find? a.externalName = none) : e.IsReadFrom m mode r (passed ++ [a]) := by
  have noValue (name : String) : ¬ r.Supplies name a := by
    rintro ⟨-, raw, found⟩
    cases missing.symm.trans found
  have noIdentifier : ¬ r.Identifies m a := by
    rintro ⟨-, raw, found, -⟩
    cases missing.symm.trans found
  refine ⟨soFar.named, fun name => ?_, fun name b raw last => ?_, fun b raw last => ?_,
    fun none => ?_⟩
  · simp [soFar.names, noValue]
  · obtain ⟨supplied, -⟩ | ⟨-, earlier⟩ := isLastOf_concat_iff.mp last
    · exact absurd supplied (noValue name)
    · exact soFar.values name b raw earlier
  · obtain ⟨identified, -⟩ | ⟨-, earlier⟩ := isLastOf_concat_iff.mp last
    · exact absurd identified noIdentifier
    · exact soFar.identified b raw earlier
  · exact soFar.unidentified (List.forall_mem_append.mp none).1

/-- The value of an attribute takes the place of what the entity had under the name. -/
theorem IsReadFrom.put (soFar : e.IsReadFrom m mode r passed)
    (found : r.find? a.externalName = some raw) (read : m.readEntry mode (a, raw) = .ok entry) :
    (put m e entry).IsReadFrom m mode r (passed ++ [a]) := by
  obtain ⟨value, readValue, rfl⟩ := ok_of_map_eq_ok read
  have under (name : String) : (Entity.put m e (a.logicalName, value)).attributes.find? name =
      if a.logicalName = name then some value else e.attributes.find? name :=
    NameMap.find?_insert ..
  have supplies (name : String) : r.Supplies name a ↔ a.logicalName = name :=
    ⟨And.left, fun named => ⟨named, raw, found⟩⟩
  have identifier := EntityMetadata.identifier?_of_readEntry found read
  refine ⟨soFar.named, fun name => ?_, fun name b raw' last given => ?_,
    fun b raw' last given => ?_, fun none => ?_⟩
  · rw [under]
    by_cases here : a.logicalName = name
    · simp [here, supplies]
    · simp [here, supplies, soFar.names]
  · rw [under]
    obtain ⟨supplied, rfl⟩ | ⟨other, earlier⟩ := isLastOf_concat_iff.mp last
    · cases found.symm.trans given
      exact ⟨value, readValue, if_pos supplied.1⟩
    · rw [if_neg (mt (supplies name).mpr other)]
      exact soFar.values name b raw' earlier given
  · obtain ⟨identified, rfl⟩ | ⟨other, earlier⟩ := isLastOf_concat_iff.mp last
    · obtain ⟨-, id, coerced, given'⟩ | ⟨other, -⟩ := identifier
      · cases found.symm.trans given
        rw [coerced, Entity.put, given']
        rfl
      · exact absurd identified other
    · obtain ⟨identified, -⟩ | ⟨-, noId⟩ := identifier
      · exact absurd identified other
      · rw [soFar.identified b raw' earlier given, Entity.put, noId]
        rfl
  · obtain ⟨notEarlier, notLast⟩ := List.forall_mem_append.mp none
    obtain ⟨identified, -⟩ | ⟨-, noId⟩ := identifier
    · exact absurd identified (notLast a List.mem_cons_self)
    · rw [Entity.put, noId]
      exact soFar.unidentified notEarlier

/-- What holds of the attributes passed so far holds after one more of them. -/
theorem IsReadFrom.takeAttribute (soFar : e.IsReadFrom m mode r passed)
    (taken : takeAttribute m mode r e a = .ok e') : e'.IsReadFrom m mode r (passed ++ [a]) := by
  cases found : r.find? a.externalName with
  | none =>
      rw [takeAttribute_of_missing found] at taken
      cases taken
      exact soFar.pass found
  | some raw =>
      rw [takeAttribute_of_given found] at taken
      obtain ⟨entry, read, rfl⟩ := ok_of_map_eq_ok taken
      exact soFar.put found read

/-- What holds of an entity after some attributes holds, by one step each, after all of them. -/
theorem IsReadFrom.takeAttributes (soFar : e.IsReadFrom m mode r passed)
    (taken : takeAttributes m mode r e rest = .ok e') :
    e'.IsReadFrom m mode r (passed ++ rest) := by
  induction rest generalizing e passed with
  | nil =>
      cases taken
      rwa [List.append_nil]
  | cons a rest ih =>
      rw [Entity.takeAttributes] at taken
      split at taken
      · cases taken
      · rename_i next first
        have all := ih (soFar.takeAttribute first) taken
        rwa [List.append_assoc] at all

theorem IsReadFrom.find?_eq_none (isRead : e.IsReadFrom m mode r passed) {name : String}
    (unsupplied : ¬ ∃ a ∈ passed, r.Supplies name a) : e.attributes.find? name = none := by
  cases found : e.attributes.find? name with
  | none => rfl
  | some value => exact absurd ((isRead.names name).mp ⟨value, found⟩) unsupplied

/-- The identifier is read alike in all modes. -/
theorem IsReadFrom.id_eq {mode' : CoercionMode} (one : e.IsReadFrom m mode r passed)
    (other : e'.IsReadFrom m mode' r passed) : e.id = e'.id := by
  by_cases identified : ∃ a ∈ passed, r.Identifies m a
  · obtain ⟨a, last⟩ := exists_isLastOf identified
    obtain ⟨-, raw, found, -⟩ := last.mem.2
    have same := (one.identified a raw last found).symm.trans (other.identified a raw last found)
    exact Option.some.inj (Except.ok.inj same)
  · have none : ∀ a ∈ passed, ¬ r.Identifies m a := by simpa using identified
    rw [one.unidentified none, other.unidentified none]

/-- The attributes say all about the entity. -/
theorem IsReadFrom.unique (one : e.IsReadFrom m mode r passed)
    (other : e'.IsReadFrom m mode r passed) : e = e' := by
  have attributes : e.attributes = e'.attributes := by
    refine NameMap.ext_find? fun name => ?_
    by_cases supplied : ∃ a ∈ passed, r.Supplies name a
    · obtain ⟨a, last⟩ := exists_isLastOf supplied
      obtain ⟨-, raw, found⟩ := last.mem.2
      obtain ⟨value, read, under⟩ := one.values name a raw last found
      obtain ⟨value', read', under'⟩ := other.values name a raw last found
      cases read.symm.trans read'
      rw [under, under']
    · rw [one.find?_eq_none supplied, other.find?_eq_none supplied]
  have named := one.named.trans other.named.symm
  change Entity.mk e.logicalName e.id e.attributes = Entity.mk e'.logicalName e'.id e'.attributes
  rw [named, one.id_eq other, attributes]

/-! ## What fails -/

/-- An attribute stops the reading of a record exactly if the record has a value for it that cannot
be read. -/
theorem takeAttribute_eq_error_iff : takeAttribute m mode r e a = .error fault ↔
    ∃ raw, r.find? a.externalName = some raw ∧ a.read m mode raw = .error fault := by
  cases found : r.find? a.externalName with
  | none => simp [takeAttribute_of_missing found]
  | some raw =>
      rw [takeAttribute_of_given found, EntityMetadata.readEntry]
      cases read : a.read m mode raw <;> simp [Except.map, read]

/-- The first attribute whose value cannot be read ends the reading. -/
theorem takeAttributes_eq_error_iff : takeAttributes m mode r e rest = .error fault ↔
    ∃ a raw, IsFirstOf (r.IsUnreadable m mode) rest a ∧ r.find? a.externalName = some raw ∧
      a.read m mode raw = .error fault := by
  induction rest generalizing e with
  | nil => exact ⟨nofun, fun ⟨a, _, first, _⟩ => nomatch first.mem.1⟩
  | cons a rest ih =>
      rw [Entity.takeAttributes]
      cases step : takeAttribute m mode r e a with
      | error cause =>
          obtain ⟨raw, found, read⟩ := takeAttribute_eq_error_iff.mp step
          have unreadable : r.IsUnreadable m mode a := ⟨raw, cause, found, read⟩
          constructor
          · rintro ⟨⟩
            exact ⟨a, raw, isFirstOf_cons_iff.mpr (.inl ⟨unreadable, rfl⟩), found, read⟩
          · rintro ⟨b, raw', first, found', read'⟩
            obtain ⟨-, rfl⟩ | ⟨other, -⟩ := isFirstOf_cons_iff.mp first
            · cases found.symm.trans found'
              cases read.symm.trans read'
              rfl
            · exact absurd unreadable other
      | ok next =>
          have readable : ¬ r.IsUnreadable m mode a := by
            rintro ⟨raw, cause, found, read⟩
            cases step.symm.trans (takeAttribute_eq_error_iff.mpr ⟨raw, found, read⟩)
          simp [ih, isFirstOf_cons_iff, readable]

/-! ## The whole record -/

/-- What a record is read as is read from it by all attributes. -/
theorem isReadFrom_of_ofRecord (read : ofRecord m mode r = .ok e) :
    e.IsReadFrom m mode r m.attributes :=
  (isReadFrom_new m mode r).takeAttributes read

/-- Nothing but a value that cannot be read makes reading fail. -/
theorem exists_fault_iff : (∃ fault, ofRecord m mode r = .error fault) ↔
    ∃ a ∈ m.attributes, r.IsUnreadable m mode a := by
  constructor
  · rintro ⟨fault, failed⟩
    obtain ⟨a, -, first, -⟩ := takeAttributes_eq_error_iff.mp failed
    exact ⟨a, first.mem⟩
  · intro unreadable
    obtain ⟨a, first⟩ := exists_isFirstOf unreadable
    obtain ⟨raw, fault, found, read⟩ := first.mem.2
    exact ⟨fault, takeAttributes_eq_error_iff.mpr ⟨a, raw, first, found, read⟩⟩

/-- A record can be read exactly if no attribute finds a value in it that cannot be read. -/
theorem exists_ofRecord_iff : (∃ e, ofRecord m mode r = .ok e) ↔
    ∀ a ∈ m.attributes, ¬ r.IsUnreadable m mode a := by
  constructor
  · rintro ⟨e, read⟩ a member unreadable
    obtain ⟨fault, failed⟩ := exists_fault_iff.mpr ⟨a, member, unreadable⟩
    cases read.symm.trans failed
  · intro readable
    cases read : ofRecord m mode r with
    | error fault =>
        obtain ⟨a, member, unreadable⟩ := exists_fault_iff.mp ⟨fault, read⟩
        exact absurd unreadable (readable a member)
    | ok e => exact ⟨e, rfl⟩

/-- What a record is read as, whatever the names of its attributes are and however often they occur.
Reading fails if the record has a value for some attribute that cannot be read, and then as the
first such attribute in the order of the metadata. If it does not fail, the entity is the one that
the attributes determine. -/
theorem ofRecord_outcome (m : EntityMetadata) (mode : CoercionMode) (r : Record) :
    ((∃ fault, ofRecord m mode r = .error fault) ↔ ∃ a ∈ m.attributes, r.IsUnreadable m mode a) ∧
    (∀ fault, ofRecord m mode r = .error fault ↔
      ∃ a raw, IsFirstOf (r.IsUnreadable m mode) m.attributes a ∧
        r.find? a.externalName = some raw ∧ a.read m mode raw = .error fault ∧
        fault.attributeName = a.logicalName ∧ fault.value = raw) ∧
    ∀ e, ofRecord m mode r = .ok e ↔
      (∀ a ∈ m.attributes, ¬ r.IsUnreadable m mode a) ∧ e.IsReadFrom m mode r m.attributes := by
  refine ⟨exists_fault_iff, fun fault => ?_, fun e => ?_⟩
  · rw [ofRecord, takeAttributes_eq_error_iff]
    constructor
    · rintro ⟨a, raw, first, found, read⟩
      exact ⟨a, raw, first, found, read, AttributeMetadata.fault_of_read read⟩
    · rintro ⟨a, raw, first, found, read, -⟩
      exact ⟨a, raw, first, found, read⟩
  · constructor
    · exact fun read => ⟨exists_ofRecord_iff.mp ⟨e, read⟩, isReadFrom_of_ofRecord read⟩
    · rintro ⟨readable, isRead⟩
      obtain ⟨e', read⟩ := exists_ofRecord_iff.mpr readable
      rw [isRead.unique (isReadFrom_of_ofRecord read), read]

end Entity

end EntityGateway
