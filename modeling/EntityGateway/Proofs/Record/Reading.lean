import EntityGateway.Proofs.NameMap
import EntityGateway.Proofs.Outcome
import EntityGateway.Record

/-!
# What records are read as

Reading goes over the values that a record has for the attributes of an entity, in the order of the
attributes. Each value is read on its own (`AttributeMetadata.read`); the first that cannot be read
fails the record, and what was read is put into the entity one after the other. So an attribute has
the last value that was read under its name, and the entity the last identifier.
-/

namespace EntityGateway

variable {m : EntityMetadata} {mode : CoercionMode} {r : Record} {e : Entity}

/-- What the value of an attribute is read as. -/
def AttributeMetadata.read (a : AttributeMetadata) (m : EntityMetadata) (mode : CoercionMode)
    (raw : Json) : Except UnreadableValue Value :=
  if a.logicalName = m.primaryIdAttribute then
    (a.coerceIdentifier raw).map fun
      | none => .null
      | some id => .uuid id
  else
    match mode with
    | .primaryIdOnly => .ok (Value.ofJson raw)
    | .allAttributes => a.coerce raw

/-- The attribute with the value that a record has for it, if it has one. -/
def Record.given? (r : Record) (a : AttributeMetadata) : Option (AttributeMetadata × Json) :=
  (r.find? a.externalName).map (a, ·)

theorem Record.mem_filterMap_given? {attributes : List AttributeMetadata} {a : AttributeMetadata}
    {raw : Json} :
    (a, raw) ∈ attributes.filterMap r.given? ↔
      a ∈ attributes ∧ r.find? a.externalName = some raw := by
  simp only [given?, List.mem_filterMap, Option.map_eq_some_iff, Prod.mk.injEq]
  constructor
  · rintro ⟨a', member, raw', found, rfl, rfl⟩
    exact ⟨member, found⟩
  · rintro ⟨member, found⟩
    exact ⟨a, member, raw, found, rfl, rfl⟩

/-! ## Identifiers -/

/-- The value is neither null nor a text that is an identifier. -/
def Json.IsNoIdentifier (raw : Json) : Prop :=
  raw ≠ .null ∧ ∀ s, raw = .string s → Uuid.read? s = none

/-- An identifier is read from null, from a text of an identifier, or not at all. -/
theorem AttributeMetadata.coerceIdentifier_cases (a : AttributeMetadata) (raw : Json) :
    raw = .null ∧ a.coerceIdentifier raw = .ok none ∨
    (∃ s id, raw = .string s ∧ Uuid.read? s = some id ∧ a.coerceIdentifier raw = .ok (some id)) ∨
    raw.IsNoIdentifier ∧
      a.coerceIdentifier raw = .error ⟨a.logicalName, .uniqueidentifier, raw⟩ := by
  cases raw with
  | null => exact .inl ⟨rfl, rfl⟩
  | string s =>
      cases read : Uuid.read? s with
      | none =>
          have none (t : String) (same : Json.string s = .string t) : Uuid.read? t = none := by
            cases same
            exact read
          exact .inr (.inr ⟨⟨nofun, none⟩, by simp only [coerceIdentifier, ofText?, read]⟩)
      | some id =>
          exact .inr (.inl ⟨s, id, rfl, read, by simp only [coerceIdentifier, ofText?, read]⟩)
  | boolean _ | integer _ | double _ | array _ | object _ =>
      exact .inr (.inr ⟨⟨nofun, nofun⟩, rfl⟩)

namespace EntityMetadata

/-- A value as it is put into an entity, under the logical name of its attribute. -/
def readEntry (m : EntityMetadata) (mode : CoercionMode) (given : AttributeMetadata × Json) :
    Except UnreadableValue (String × Value) :=
  (given.1.read m mode given.2).map (given.1.logicalName, ·)

/-- The identifier in an entry, if it is one of the primary attribute. -/
def identifier? (m : EntityMetadata) (entry : String × Value) : Option Uuid :=
  match entry.2 with
  | .uuid id => if entry.1 = m.primaryIdAttribute then some id else none
  | _ => none

variable {a : AttributeMetadata} {raw : Json} {entry : String × Value}

/-- The value of the primary attribute is its identifier, in either mode. -/
theorem readEntry_of_primary (primary : a.logicalName = m.primaryIdAttribute) :
    m.readEntry mode (a, raw) = (a.coerceIdentifier raw).map fun
      | none => (a.logicalName, .null)
      | some id => (a.logicalName, .uuid id) := by
  simp only [readEntry, AttributeMetadata.read, if_pos primary]
  rcases a.coerceIdentifier raw with fault | _ | id <;> rfl

theorem name_of_readEntry (read : m.readEntry mode (a, raw) = .ok entry) :
    entry.1 = a.logicalName := by
  obtain ⟨value, -, rfl⟩ := ok_of_map_eq_ok read
  rfl

/-- An identifier is read from a text under the primary attribute. -/
theorem of_identifier?_eq_some {id : Uuid} (read : m.readEntry mode (a, raw) = .ok entry)
    (identifier : m.identifier? entry = some id) :
    a.logicalName = m.primaryIdAttribute ∧ ∃ s, raw = .string s ∧ Uuid.read? s = some id := by
  have named := name_of_readEntry read
  have primary : a.logicalName = m.primaryIdAttribute := by
    unfold identifier? at identifier
    split at identifier
    · split at identifier
      · rename_i here
        exact named ▸ here
      · cases identifier
    · cases identifier
  refine ⟨primary, ?_⟩
  rw [readEntry_of_primary primary] at read
  rcases a.coerceIdentifier_cases raw with ⟨-, null⟩ | ⟨s, id', text, valid, found⟩ | ⟨-, failed⟩
  · rw [null] at read
    cases read
    cases identifier
  · rw [found] at read
    cases read
    simp only [identifier?, if_pos primary] at identifier
    exact ⟨s, text, identifier ▸ valid⟩
  · rw [failed] at read
    cases read

/-- Only null gives no identifier under the primary attribute. -/
theorem of_identifier?_eq_none (primary : a.logicalName = m.primaryIdAttribute)
    (read : m.readEntry mode (a, raw) = .ok entry) (noIdentifier : m.identifier? entry = none) :
    raw = .null := by
  rw [readEntry_of_primary primary] at read
  rcases a.coerceIdentifier_cases raw with ⟨null, -⟩ | ⟨s, id, -, -, found⟩ | ⟨-, failed⟩
  · exact null
  · rw [found] at read
    cases read
    simp only [identifier?, if_pos primary] at noIdentifier
    cases noIdentifier
  · rw [failed] at read
    cases read

end EntityMetadata

namespace Entity

/-- Puts an entry into an entity. An identifier of the primary attribute becomes the entity's. -/
def put (m : EntityMetadata) (e : Entity) (entry : String × Value) : Entity where
  logicalName := e.logicalName
  id := (m.identifier? entry).getD e.id
  attributes := e.attributes.insert entry.1 entry.2

/-! ## One attribute after the other -/

/-- An attribute that a record has no value for is passed over. -/
theorem takeAttribute_of_missing {a : AttributeMetadata} (missing : r.find? a.externalName = none) :
    takeAttribute m mode r e a = .ok e := by
  rw [takeAttribute, missing]

/-- An attribute that a record has a value for gives an entry, or the fault of the value. -/
theorem takeAttribute_of_given {a : AttributeMetadata} {raw : Json}
    (given : r.find? a.externalName = some raw) :
    takeAttribute m mode r e a = (m.readEntry mode (a, raw)).map (put m e) := by
  rw [takeAttribute, given]
  by_cases primary : a.logicalName = m.primaryIdAttribute
  · simp only [EntityMetadata.readEntry, AttributeMetadata.read, if_pos primary]
    rcases a.coerceIdentifier raw with fault | _ | id
    · rfl
    · rfl
    · simp [Except.map, put, EntityMetadata.identifier?, primary]
  · have noIdentifier (v : Value) : m.identifier? (a.logicalName, v) = none := by
      cases v <;> simp [EntityMetadata.identifier?, primary]
    simp only [EntityMetadata.readEntry, AttributeMetadata.read, if_neg primary]
    cases mode with
    | primaryIdOnly => simp [Except.map, put, noIdentifier]
    | allAttributes =>
        dsimp only
        cases a.coerce raw with
        | error fault => rfl
        | ok value => simp [Except.map, put, noIdentifier]

/-- The values are read in the order of the attributes, and put into the entity once all of them
could be read. -/
theorem takeAttributes_eq (m : EntityMetadata) (mode : CoercionMode) (r : Record) (e : Entity)
    (attributes : List AttributeMetadata) :
    takeAttributes m mode r e attributes =
      ((attributes.filterMap r.given?).mapM (m.readEntry mode)).map (List.foldl (put m) e) := by
  induction attributes generalizing e with
  | nil => rfl
  | cons a rest ih =>
      cases found : r.find? a.externalName with
      | none =>
          have passed : r.given? a = none := by rw [Record.given?, found]; rfl
          rw [takeAttributes, takeAttribute_of_missing found, List.filterMap_cons_none passed]
          exact ih e
      | some raw =>
          have given : r.given? a = some (a, raw) := by rw [Record.given?, found]; rfl
          rw [takeAttributes, takeAttribute_of_given found, List.filterMap_cons_some given,
            List.mapM_cons]
          cases m.readEntry mode (a, raw) with
          | error fault => rfl
          | ok entry =>
              refine (ih (put m e entry)).trans ?_
              cases (rest.filterMap r.given?).mapM (m.readEntry mode) <;> rfl

/-! ## The entity that comes of it -/

theorem logicalName_foldl_put (m : EntityMetadata) (e : Entity) (entries : List (String × Value)) :
    (entries.foldl (put m) e).logicalName = e.logicalName := by
  induction entries generalizing e with
  | nil => rfl
  | cons entry rest ih => exact ih (put m e entry)

/-- Entries are added one by one, so that the last one of a name counts. -/
theorem attributes_foldl_put (m : EntityMetadata) (e : Entity) (entries : List (String × Value)) :
    (entries.foldl (put m) e).attributes =
      entries.foldl (fun map entry => map.insert entry.1 entry.2) e.attributes := by
  induction entries generalizing e with
  | nil => rfl
  | cons entry rest ih => exact ih (put m e entry)

/-- The identifier is that of the last entry that has one. -/
theorem id_foldl_put (m : EntityMetadata) (e : Entity) (entries : List (String × Value)) :
    (entries.foldl (put m) e).id = ((entries.filterMap m.identifier?).getLast?).getD e.id := by
  induction entries using List.reverseRecOn with
  | nil => rfl
  | append_singleton entries entry ih =>
      rw [List.foldl_append, List.filterMap_append]
      cases identifier : m.identifier? entry with
      | none => simp [put, identifier, ih]
      | some id => simp [put, identifier]

/-- An entity is made of the entries that the values of its record were read as. -/
theorem entries_of_ofRecord (read : ofRecord m mode r = .ok e) :
    ∃ entries, List.Forall₂ (fun given entry => m.readEntry mode given = .ok entry)
        (m.attributes.filterMap r.given?) entries ∧
      e.logicalName = m.logicalName ∧
      (∀ name, e.attributes.find? name = valueUnder? name entries.reverse) ∧
      e.id = ((entries.filterMap m.identifier?).getLast?).getD .zero := by
  rw [ofRecord, takeAttributes_eq] at read
  obtain ⟨entries, readAll, rfl⟩ := ok_of_map_eq_ok read
  have attributes (name : String) :
      (entries.foldl (put m) (.new m.logicalName)).attributes.find? name =
        valueUnder? name entries.reverse := by
    rw [attributes_foldl_put, NameMap.find?_foldl_insert]
    exact Option.or_none
  exact ⟨entries, forall₂_of_mapM_eq_ok readAll, logicalName_foldl_put .., attributes,
    id_foldl_put ..⟩

theorem logicalName_of_ofRecord (read : ofRecord m mode r = .ok e) :
    e.logicalName = m.logicalName := by
  obtain ⟨entries, -, named, -⟩ := entries_of_ofRecord read
  exact named

/-- A record fails as the first of its values that cannot be read. -/
theorem firstFailure_of_ofRecord {fault : UnreadableValue}
    (failed : ofRecord m mode r = .error fault) :
    ∃ index, FirstFailure (m.readEntry mode) (m.attributes.filterMap r.given?) index fault := by
  rw [ofRecord, takeAttributes_eq] at failed
  exact firstFailure_of_mapM_eq_error (error_of_map_eq_error failed)

/-! ## Records one after the other -/

/-- Records are read from first to last, up to the first that cannot be read. -/
theorem ofRecords_eq_mapM (m : EntityMetadata) (mode : CoercionMode) (records : List Record) :
    ofRecords m mode records = records.mapM (ofRecord m mode) := by
  induction records with
  | nil => rfl
  | cons r rest ih =>
      rw [ofRecords, List.mapM_cons, ih]
      cases ofRecord m mode r with
      | error fault => rfl
      | ok e => cases rest.mapM (ofRecord m mode) <;> rfl

end Entity

end EntityGateway
