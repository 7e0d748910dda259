import EntityGateway.Proofs.Record.Outcome
import EntityGateway.Proofs.Selection

/-!
# Asking and reading go by the same property

Where a query mentions a logical name, what is compiled mentions the property of the first attribute
with that name (`EntityMetadata.writes_of_toExternal`). What a record is read as has, under the same
name, the value of the last attribute with that name that the record has a value for. The two are
one property for every record exactly if attributes with one logical name have one external name
(`hasStableNames_iff_readsWhatIsAsked`), which nothing that accepts metadata demands.
-/

namespace EntityGateway

variable {m : EntityMetadata} {mode : CoercionMode} {r : Record} {e : Entity}
  {a : AttributeMetadata} {name property : String}

/-! ## What a query asks about -/

/-- The property that a condition of a statement compares. -/
def Sql.Expression.property? : Sql.Expression → Option String
  | .compare (.column c) _ _ => some c.name
  | _ => none

/-- The property that a condition among options is about. -/
def OData.Expression.property? : OData.Expression → Option String
  | .not item => item.property?
  | .compare property _ _ | .search _ property _ | .call _ property _ => some property
  | _ => none

/-- Wherever a query mentions the logical name, to select, to sort or to filter by it, what is
compiled mentions the property, in either dialect. -/
structure EntityMetadata.Writes (m : EntityMetadata) (name property : String) : Prop where
  columns : ∀ q s, Sql.Select.ofQuery m q = .ok s → q.columnSet.isRestricted = true →
    name ∈ q.columnSet.columns →
    ∃ columns, s.columns = some columns ∧ ⟨Sql.defaultAlias, property⟩ ∈ columns
  select : ∀ q o, OData.Options.ofQuery m q = .ok o → q.columnSet.isRestricted = true →
    name ∈ q.columnSet.columns → property ∈ o.select
  statementOrder : ∀ q s, Sql.Select.ofQuery m q = .ok s → List.Forall₂ (fun order ordering =>
    order.attributeName = name → ordering = ⟨⟨Sql.defaultAlias, property⟩, order.descending⟩)
    q.orders s.order
  optionOrder : ∀ q o, OData.Options.ofQuery m q = .ok o → List.Forall₂ (fun order ordering =>
    order.attributeName = name → ordering = ⟨property, order.descending⟩) q.orders o.order
  statementCondition : ∀ c condition, c.attributeName = name →
    Sql.Expression.ofCondition m c = .ok condition → condition.property? = some property
  optionCondition : ∀ c condition, c.attributeName = name →
    OData.Expression.ofCondition m c = .ok condition → condition.property? = some property

namespace EntityMetadata

/-- The selected properties are those of the columns. -/
theorem mem_of_projection {columns projected : List String}
    (made : m.projection columns = .ok projected) (asked : name ∈ columns)
    (known : m.externalFor name = .ok property) : property ∈ projected := by
  obtain ⟨names, mapped, rfl⟩ := ok_of_map_eq_ok made
  obtain ⟨external, member, same⟩ := exists_beside_left (forall₂_of_mapM_eq_ok mapped) asked
  cases known.symm.trans same
  exact List.mem_eraseDups.mpr member

theorem forall₂_of_ordering {orders : List Order} {names : List (String × Bool)}
    (made : m.ordering orders = .ok names) (known : m.externalFor name = .ok property) :
    List.Forall₂ (fun order ordering => order.attributeName = name →
      ordering = (property, order.descending)) orders names := by
  refine (forall₂_of_mapM_eq_ok made).imp fun order ordering compiled named => ?_
  rw [named, known] at compiled
  exact (Except.ok.inj compiled).symm

theorem lookup_of_toExternal (known : m.toExternal name = .ok property)
    (found : m.lookup name = .ok a) : a.externalName = property := by
  have named := ok_of_mapError_eq_ok found
  rw [toExternal, named] at known
  exact Except.ok.inj known

end EntityMetadata

theorem Sql.Expression.property?_of_ofCondition {c : Condition} {condition : Sql.Expression}
    (known : m.toExternal c.attributeName = .ok property)
    (compiled : ofCondition m c = .ok condition) : condition.property? = some property := by
  unfold ofCondition at compiled
  split at compiled
  · cases compiled
  · split at compiled
    · cases compiled
    · rename_i a found
      split at compiled
      · obtain ⟨literal, -, rfl⟩ := ok_of_map_eq_ok compiled
        exact congrArg some (EntityMetadata.lookup_of_toExternal known found)
      · cases compiled

namespace OData.Expression

theorem property?_negatedIf (negated : Bool) (item : Expression) :
    (negatedIf negated item).property? = item.property? := by
  cases negated <;> rfl

/-- Whatever its form is, a condition is about the property of its attribute. -/
theorem property?_of_ofForm {c : Condition} {form : OperatorForm} {condition : Expression}
    (compiled : ofForm a c form = .ok condition) :
    condition.property? = some a.externalName := by
  unfold ofForm at compiled
  split at compiled
  case h_1 =>
      obtain ⟨literal, -, compiled⟩ := ok_of_bind_eq_ok compiled
      cases compiled
      rfl
  case h_2 =>
      obtain ⟨text, -, compiled⟩ := ok_of_bind_eq_ok compiled
      obtain ⟨function, -, compiled⟩ := ok_of_bind_eq_ok compiled
      cases compiled
      exact property?_negatedIf ..
  case h_3 =>
      obtain ⟨text, -, compiled⟩ := ok_of_bind_eq_ok compiled
      cases compiled
      exact property?_negatedIf ..
  case h_4 =>
      cases compiled
      rfl
  case h_5 | h_6 =>
      obtain ⟨literal, -, compiled⟩ := ok_of_bind_eq_ok compiled
      cases compiled
      rfl
  case h_7 =>
      cases compiled
      rfl
  case h_8 =>
      obtain ⟨first, -, compiled⟩ := ok_of_bind_eq_ok compiled
      obtain ⟨second, -, compiled⟩ := ok_of_bind_eq_ok compiled
      cases compiled
      rfl
  case h_9 => cases compiled

theorem property?_of_ofCondition {c : Condition} {condition : Expression}
    (known : m.toExternal c.attributeName = .ok property)
    (compiled : ofCondition m c = .ok condition) : condition.property? = some property := by
  unfold ofCondition at compiled
  split at compiled
  · cases compiled
  · split at compiled
    · cases compiled
    · rename_i a found
      split at compiled
      · rw [property?_of_ofForm compiled, EntityMetadata.lookup_of_toExternal known found]
      · cases compiled

end OData.Expression

/-- Both compilers write the external name of a logical name, and nothing else, for it. -/
theorem EntityMetadata.writes_of_toExternal (known : m.toExternal name = .ok property) :
    m.Writes name property := by
  have external := externalFor_of_toExternal known
  constructor
  · intro q s compiled restricted asked
    have made := Sql.columnsOf_of_ofQuery compiled
    rw [Sql.columnsOf, if_pos restricted] at made
    obtain ⟨projected, made, same⟩ := ok_of_map_eq_ok made
    have member := mem_of_projection made (List.mem_append_left _ asked) external
    exact ⟨_, same.symm, List.mem_map_of_mem member⟩
  · intro q o compiled restricted asked
    have made := OData.selectOf_of_ofQuery compiled
    rw [OData.selectOf, if_pos restricted] at made
    exact mem_of_projection made asked external
  · intro q s compiled
    obtain ⟨columns, -, compiled⟩ := ok_of_bind_eq_ok compiled
    obtain ⟨order, made, compiled⟩ := ok_of_bind_eq_ok compiled
    obtain ⟨condition, -, compiled⟩ := ok_of_bind_eq_ok compiled
    cases compiled
    obtain ⟨names, ordered, rfl⟩ := ok_of_map_eq_ok made
    refine List.forall₂_map_right_iff.mpr ((forall₂_of_ordering ordered external).imp ?_)
    intro order ordering compiled named
    rw [compiled named]
  · intro q o compiled
    obtain ⟨select, -, compiled⟩ := ok_of_bind_eq_ok compiled
    obtain ⟨order, made, compiled⟩ := ok_of_bind_eq_ok compiled
    obtain ⟨filter, -, compiled⟩ := ok_of_bind_eq_ok compiled
    cases compiled
    obtain ⟨names, ordered, rfl⟩ := ok_of_map_eq_ok made
    refine List.forall₂_map_right_iff.mpr ((forall₂_of_ordering ordered external).imp ?_)
    intro order ordering compiled named
    rw [compiled named]
  · rintro c condition rfl compiled
    exact Sql.Expression.property?_of_ofCondition known compiled
  · rintro c condition rfl compiled
    exact OData.Expression.property?_of_ofCondition known compiled

/-! ## What reading goes by -/

/-- Attributes with one logical name have one external name. -/
def EntityMetadata.HasStableNames (m : EntityMetadata) : Prop :=
  ∀ a ∈ m.attributes, ∀ b ∈ m.attributes, a.logicalName = b.logicalName →
    a.externalName = b.externalName

/-- Metadata that gives no name twice has stable names. -/
theorem EntityMetadata.HasDistinctNames.hasStableNames (distinct : m.HasDistinctNames) :
    m.HasStableNames := fun _ member _ member' same =>
  congrArg AttributeMetadata.externalName
    (List.inj_on_of_nodup_map distinct member member' same)

namespace Entity

/-- The value that an entity has under a logical name comes from the property that queries which
mention the name ask about. -/
def ReadsWhatIsAsked (m : EntityMetadata) : Prop :=
  ∀ mode r e, ofRecord m mode r = .ok e → ∀ name value, e.attributes.find? name = some value →
    ∃ property raw, m.toExternal name = .ok property ∧ m.Writes name property ∧
      r.find? property = some raw ∧
      ∃ a ∈ m.attributes, a.logicalName = name ∧ a.externalName = property ∧
        a.read m mode raw = .ok value

theorem toExternal_of_hasStableNames (stable : m.HasStableNames) (member : a ∈ m.attributes) :
    m.toExternal a.logicalName = .ok a.externalName := by
  obtain ⟨property, known⟩ := EntityMetadata.exists_toExternal ⟨a, member, rfl⟩
  obtain ⟨b, found, rfl⟩ :=
    EntityMetadata.attribute?_of_externalFor (EntityMetadata.externalFor_of_toExternal known)
  obtain ⟨member', named⟩ := EntityMetadata.of_attribute? found
  rw [known, stable b member' a member named]

theorem readsWhatIsAsked_of_hasStableNames (stable : m.HasStableNames) : ReadsWhatIsAsked m := by
  intro mode r e read name value under
  have isRead := isReadFrom_of_ofRecord read
  obtain ⟨a, last⟩ := exists_isLastOf ((isRead.names name).mp ⟨value, under⟩)
  obtain ⟨member, rfl, raw, found⟩ := last.mem
  obtain ⟨value', readValue, under'⟩ := isRead.values _ a raw last found
  cases under.symm.trans under'
  have known := toExternal_of_hasStableNames stable member
  exact ⟨a.externalName, raw, known, EntityMetadata.writes_of_toExternal known, found, a, member,
    rfl, rfl, readValue⟩

/-- A record that has null for one property and nothing else. -/
def onlyNull (property : String) : Record :=
  NameMap.empty.insert property .null

theorem find?_onlyNull_eq_some {raw : Json} (found : (onlyNull property).find? name = some raw) :
    name = property ∧ raw = .null := by
  rw [onlyNull, NameMap.find?_insert] at found
  split at found
  · rename_i here
    cases found
    exact ⟨here.symm, rfl⟩
  · cases found

/-- Null can be read for every attribute. -/
theorem read_null (a : AttributeMetadata) (m : EntityMetadata) (mode : CoercionMode) :
    a.read m mode .null = .ok .null := by
  unfold AttributeMetadata.read
  split
  · rfl
  · cases mode <;> rfl

/-- The record with nothing but the property of an attribute tells that reading goes by it. -/
theorem toExternal_of_readsWhatIsAsked (reads : ReadsWhatIsAsked m) (member : a ∈ m.attributes) :
    m.toExternal a.logicalName = .ok a.externalName := by
  have present : (onlyNull a.externalName).find? a.externalName = some .null := by
    rw [onlyNull, NameMap.find?_insert, if_pos rfl]
  have readable : ∀ b ∈ m.attributes,
      ¬ (onlyNull a.externalName).IsUnreadable m .primaryIdOnly b := by
    rintro b - ⟨raw, fault, found, failed⟩
    obtain ⟨-, rfl⟩ := find?_onlyNull_eq_some found
    cases (read_null b m .primaryIdOnly).symm.trans failed
  obtain ⟨e, read⟩ := exists_ofRecord_iff.mpr readable
  obtain ⟨value, under⟩ := ((isReadFrom_of_ofRecord read).names a.logicalName).mpr
    ⟨a, member, rfl, .null, present⟩
  obtain ⟨property, raw, known, -, found, -⟩ := reads _ _ e read _ value under
  obtain ⟨rfl, -⟩ := find?_onlyNull_eq_some found
  exact known

/-- Reading goes by the property that queries ask about, for all records, exactly if attributes with
one logical name have one external name. -/
theorem hasStableNames_iff_readsWhatIsAsked (m : EntityMetadata) :
    m.HasStableNames ↔ ReadsWhatIsAsked m := by
  constructor
  · exact readsWhatIsAsked_of_hasStableNames
  · intro reads a member b member' same
    have known := toExternal_of_readsWhatIsAsked reads member
    rw [same, toExternal_of_readsWhatIsAsked reads member'] at known
    exact (Except.ok.inj known).symm

/-- Books whose title is described twice. -/
def retitledBook : EntityMetadata where
  logicalName := "book"
  externalName := "book"
  externalCollectionName := "books"
  primaryIdAttribute := "id"
  attributes := [⟨"id", "bookid", .uniqueidentifier⟩, ⟨"title", "name", .string⟩,
    ⟨"title", "label", .string⟩]

/-- Queries for a title ask about the name of a book, while the title that is read is its label. -/
theorem reads_another_property :
    let r : Record := .ofList [("label", .string "Persuasion"), ("name", .string "Emma")]
    retitledBook.toExternal "title" = .ok "name" ∧ r.find? "name" = some (.string "Emma") ∧
      (∃ e, ofRecord retitledBook .primaryIdOnly r = .ok e ∧
        e.attributes.find? "title" = some (.string "Persuasion")) ∧
      ¬ ReadsWhatIsAsked retitledBook := by
  intro r
  refine ⟨rfl, rfl, ⟨_, rfl, rfl⟩, fun reads => ?_⟩
  have member : (⟨"title", "label", .string⟩ : AttributeMetadata) ∈ retitledBook.attributes := by
    decide
  have known : Except.ok "name" = Except.ok "label" := toExternal_of_readsWhatIsAsked reads member
  exact absurd (Except.ok.inj known) (by decide)

end Entity

end EntityGateway
