import EntityGateway.Proofs.Metadata
import EntityGateway.Proofs.Record.Reading
import EntityGateway.Sql.Compile

/-!
# What is selected is what is read

A statement that is narrowed to some columns names properties of the store, each once, and reading
the records that come back goes over attributes. `ofRecord_of_columnsOf` says that the two fit: a
record that has the properties that were selected is read as an entity that has an attribute under
every name that was asked for, and that can be addressed, unless what it has for an identifier is
none.
-/

namespace EntityGateway

variable {m : EntityMetadata} {r : Record} {e : Entity} {a p : AttributeMetadata} {raw : Json}
  {columnSet : ColumnSet} {columns : List Sql.Column}

/-- The entity that was read from a record answers a selection of attributes. -/
structure Entity.Answers (e : Entity) (m : EntityMetadata) (names : List String) (r : Record)
    (identifier : Json) : Prop where
  /-- Every attribute that was asked for is there. -/
  complete : ∀ name ∈ names, ∃ value, e.attributes.find? name = some value
  /-- The entity has the identifier that is in the record, or none if that is null. -/
  addressed : identifier = .null ∧ e.id = .zero ∨
    ∃ s, identifier = .string s ∧ Uuid.read? s = some e.id
  /-- The record has a value for each attribute of the entity. -/
  supplied : ∀ name value, e.attributes.find? name = some value →
    ∃ a, m.attribute? name = some a ∧ ∃ raw, r.find? a.externalName = some raw

/-! ## Selected columns -/

/-- The columns of a narrowed statement are those of the names that were asked for, and the one of
the primary attribute. -/
theorem Sql.attribute?_of_columnsOf (selected : columnsOf m columnSet = .ok (some columns)) :
    ∀ name ∈ columnSet.columns ++ [m.primaryIdAttribute], ∃ a, m.attribute? name = some a ∧
      ⟨defaultAlias, a.externalName⟩ ∈ columns := by
  intro name asked
  unfold columnsOf at selected
  split_ifs at selected
  · obtain ⟨distinct, projected, same⟩ := ok_of_map_eq_ok selected
    obtain ⟨externals, mapped, rfl⟩ := ok_of_map_eq_ok projected
    cases same
    obtain ⟨external, member, known⟩ := exists_beside_left (forall₂_of_mapM_eq_ok mapped) asked
    obtain ⟨a, found, rfl⟩ := EntityMetadata.attribute?_of_externalFor known
    exact ⟨a, found, List.mem_map_of_mem (List.mem_eraseDups.mpr member)⟩
  · cases selected

namespace Entity

/-! ## What is read by names -/

/-- An attribute of an entity comes from one that the record has a value for. -/
theorem supplied_of_ofRecord {mode : CoercionMode} (read : ofRecord m mode r = .ok e)
    {name : String} {value : Value} (found : e.attributes.find? name = some value) :
    ∃ a ∈ m.attributes, a.logicalName = name ∧ ∃ raw, r.find? a.externalName = some raw := by
  obtain ⟨entries, beside, -, attributes, -⟩ := entries_of_ofRecord read
  rw [attributes] at found
  have member : (name, value) ∈ entries := List.mem_reverse.mp (mem_of_valueUnder? found)
  obtain ⟨⟨a, raw⟩, given, readEntry⟩ := exists_beside_right beside member
  obtain ⟨described, supplied⟩ := Record.mem_filterMap_given?.mp given
  exact ⟨a, described, (EntityMetadata.name_of_readEntry readEntry).symm, raw, supplied⟩

/-- An attribute that the record has a value for is in the entity. -/
theorem exists_value_of_ofRecord {mode : CoercionMode} (read : ofRecord m mode r = .ok e)
    (member : a ∈ m.attributes) (supplied : r.find? a.externalName = some raw) :
    ∃ value, e.attributes.find? a.logicalName = some value := by
  obtain ⟨entries, beside, -, attributes, -⟩ := entries_of_ofRecord read
  have given : (a, raw) ∈ m.attributes.filterMap r.given? :=
    Record.mem_filterMap_given?.mpr ⟨member, supplied⟩
  obtain ⟨entry, among, readEntry⟩ := exists_beside_left beside given
  have named : a.logicalName ∈ entries.reverse.map (·.1) := by
    rw [← EntityMetadata.name_of_readEntry readEntry]
    exact List.mem_map_of_mem (List.mem_reverse.mpr among)
  apply Option.ne_none_iff_exists'.mp
  intro missing
  rw [attributes] at missing
  exact valueUnder?_eq_none_iff.mp missing named

/-! ## The identifier -/

section PrimaryAttribute

variable (distinct : m.HasDistinctNames) (primary : m.attribute? m.primaryIdAttribute = some p)
  (supplied : r.find? p.externalName = some raw)

include distinct primary

/-- If names are distinct there is one primary attribute. -/
theorem eq_primary (member : a ∈ m.attributes) (named : a.logicalName = m.primaryIdAttribute) :
    a = p := by
  have found := EntityMetadata.attribute?_of_mem distinct member
  rw [named, primary] at found
  exact (Option.some.inj found).symm

include supplied

theorem addressed_of_ofRecord {mode : CoercionMode} (read : ofRecord m mode r = .ok e) :
    raw = .null ∧ e.id = .zero ∨ ∃ s, raw = .string s ∧ Uuid.read? s = some e.id := by
  obtain ⟨entries, beside, -, -, identified⟩ := entries_of_ofRecord read
  obtain ⟨member, named⟩ := EntityMetadata.of_attribute? primary
  cases last : (entries.filterMap m.identifier?).getLast? with
  | none =>
      have given : (p, raw) ∈ m.attributes.filterMap r.given? :=
        Record.mem_filterMap_given?.mpr ⟨member, supplied⟩
      obtain ⟨entry, among, readEntry⟩ := exists_beside_left beside given
      have noIdentifier : m.identifier? entry = none :=
        List.filterMap_eq_nil_iff.mp (List.getLast?_eq_none_iff.mp last) entry among
      refine .inl ⟨EntityMetadata.of_identifier?_eq_none named readEntry noIdentifier, ?_⟩
      rw [identified, last, Option.getD_none]
  | some id =>
      obtain ⟨entry, among, identifier⟩ :=
        List.mem_filterMap.mp (List.mem_of_getLast? last)
      obtain ⟨⟨a, raw'⟩, given, readEntry⟩ := exists_beside_right beside among
      obtain ⟨member', supplied'⟩ := Record.mem_filterMap_given?.mp given
      obtain ⟨named', s, text, valid⟩ :=
        EntityMetadata.of_identifier?_eq_some readEntry identifier
      obtain rfl := eq_primary distinct primary member' named'
      cases supplied.symm.trans supplied'
      refine .inr ⟨s, text, ?_⟩
      rw [identified, last, Option.getD_some, valid]

/-- Of a record whose values are copied, only the identifier may be unreadable. -/
theorem fault_of_ofRecord {fault : UnreadableValue}
    (failed : ofRecord m .primaryIdOnly r = .error fault) :
    raw.IsNoIdentifier ∧ fault = ⟨p.logicalName, .uniqueidentifier, raw⟩ := by
  obtain ⟨index, ⟨⟨a, raw'⟩, at?, unreadable⟩, -⟩ := firstFailure_of_ofRecord failed
  obtain ⟨member, supplied'⟩ := Record.mem_filterMap_given?.mp (List.mem_of_getElem? at?)
  by_cases named : a.logicalName = m.primaryIdAttribute
  · obtain rfl := eq_primary distinct primary member named
    cases supplied.symm.trans supplied'
    rw [EntityMetadata.readEntry_of_primary named] at unreadable
    have unreadable := error_of_map_eq_error unreadable
    rcases a.coerceIdentifier_cases raw with ⟨-, null⟩ | ⟨s, id, -, -, found⟩ | ⟨none, fails⟩
    · cases unreadable.symm.trans null
    · cases unreadable.symm.trans found
    · cases unreadable.symm.trans fails
      exact ⟨none, rfl⟩
  · simp only [EntityMetadata.readEntry, AttributeMetadata.read, if_neg named] at unreadable
    cases unreadable

end PrimaryAttribute

/-- A record that has what a narrowed statement selects is read as an entity that answers the
selection, unless what it has for an identifier is none. -/
theorem ofRecord_of_columnsOf (distinct : m.HasDistinctNames)
    (selected : Sql.columnsOf m columnSet = .ok (some columns))
    (complete : ∀ column ∈ columns, ∃ raw, r.find? column.name = some raw) :
    ∃ p raw, m.primaryId = .ok p ∧ r.find? p.externalName = some raw ∧
      (raw.IsNoIdentifier ∧
          ofRecord m .primaryIdOnly r = .error ⟨p.logicalName, .uniqueidentifier, raw⟩ ∨
        ∃ e, ofRecord m .primaryIdOnly r = .ok e ∧
          e.Answers m (columnSet.columns ++ [m.primaryIdAttribute]) r raw) := by
  have known := Sql.attribute?_of_columnsOf selected
  obtain ⟨p, primary, column⟩ :=
    known m.primaryIdAttribute (List.mem_append_right _ List.mem_cons_self)
  obtain ⟨raw, supplied⟩ := complete _ column
  refine ⟨p, raw, EntityMetadata.primaryId_of_attribute? primary, supplied, ?_⟩
  cases read : ofRecord m .primaryIdOnly r with
  | error fault =>
      obtain ⟨none, rfl⟩ := fault_of_ofRecord distinct primary supplied read
      exact .inl ⟨none, rfl⟩
  | ok e =>
      refine .inr ⟨e, rfl, ?_, addressed_of_ofRecord distinct primary supplied read, ?_⟩
      · intro name asked
        obtain ⟨a, found, selected⟩ := known name asked
        obtain ⟨member, rfl⟩ := EntityMetadata.of_attribute? found
        obtain ⟨raw', given⟩ := complete _ selected
        exact exists_value_of_ofRecord read member given
      · intro name value found
        obtain ⟨a, member, rfl, raw', given⟩ := supplied_of_ofRecord read found
        exact ⟨a, EntityMetadata.attribute?_of_mem distinct member, raw', given⟩

/-- Books, two of whose attributes are kept under one external name. -/
def sharedNameBook : EntityMetadata where
  logicalName := "book"
  externalName := "book"
  externalCollectionName := "books"
  primaryIdAttribute := "id"
  attributes := [⟨"title", "name", .string⟩, ⟨"label", "name", .memo⟩, ⟨"pages", "pages", .integer⟩,
    ⟨"id", "bookid", .uniqueidentifier⟩]

/-- A book as a statement answers it that asks for title and label. -/
def sharedNameRecord : Record :=
  .ofList [("name", .string "Emma"), ("bookid", .string "00000000-0000-0000-0000-00000000000a"),
    ("shelf", .integer 3)]

theorem ofRecord_of_columnsOf_sharedName :
    let columnSet : ColumnSet := ⟨false, ["title", "label", "title"]⟩
    let columns : List Sql.Column :=
      [⟨Sql.defaultAlias, "name"⟩, ⟨Sql.defaultAlias, "bookid"⟩]
    sharedNameBook.HasDistinctNames ∧
      Sql.columnsOf sharedNameBook columnSet = .ok (some columns) ∧
      (∀ column ∈ columns, ∃ raw, sharedNameRecord.find? column.name = some raw) ∧
      ∃ p raw, sharedNameBook.primaryId = .ok p ∧
        sharedNameRecord.find? p.externalName = some raw ∧
        (raw.IsNoIdentifier ∧ ofRecord sharedNameBook .primaryIdOnly sharedNameRecord =
            .error ⟨p.logicalName, .uniqueidentifier, raw⟩ ∨
          ∃ e, ofRecord sharedNameBook .primaryIdOnly sharedNameRecord = .ok e ∧
            e.Answers sharedNameBook ["title", "label", "title", "id"] sharedNameRecord raw) := by
  intro columnSet columns
  have distinct : sharedNameBook.HasDistinctNames := by
    unfold EntityMetadata.HasDistinctNames
    decide +kernel
  have selected : Sql.columnsOf sharedNameBook columnSet = .ok (some columns) := rfl
  have supplied : ∀ column ∈ columns, (sharedNameRecord.find? column.name).isSome = true := by
    decide +kernel
  have complete : ∀ column ∈ columns, ∃ raw, sharedNameRecord.find? column.name = some raw :=
    fun column member => Option.isSome_iff_exists.mp (supplied column member)
  exact ⟨distinct, selected, complete, ofRecord_of_columnsOf distinct selected complete⟩

end Entity

end EntityGateway
