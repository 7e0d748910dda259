import EntityGateway.OData.Compile
import EntityGateway.Proofs.FilterTrees
import EntityGateway.Proofs.OData.ReadBack

/-!
# Compiled filters are read back

Every filter that is compiled for an entity whose properties are identifiers has the form that the
reader of filters undoes. This rests on an invariant of compiled filters: a negation only ever
stands in front of a search, and what is written without quotes, be it a number, an identifier or an
instant, holds none of the characters that keep a filter together.
-/

namespace EntityGateway.OData

open Text

/-! ## Compiled filters -/

/-- The literal of a value by itself has a text by which it can be read. -/
theorem Literal.readable_of_ofOwnKind? {v : Value} {l : Literal} (made : ofOwnKind? v = some l) :
    l.Readable := by
  cases v with
  | null => cases made; trivial
  | boolean b => cases made; trivial
  | double d =>
      simp only [ofOwnKind?] at made
      split at made
      · rename_i finite
        cases made
        rw [Readable, String.toList_ofList]
        exact (Double.isNumeral_plain finite).isBare
      · cases made
  | integer n => cases made; exact (Value.isNumeral_integerText n.toInt).isBare
  | option code => cases made; exact (Value.isNumeral_integerText code.toInt).isBare
  | money amount => cases made; exact amount.isNumeral_text.isBare
  | decimal amount => cases made; exact amount.isNumeral_text.isBare
  | uuid u => cases made; exact u.isBare_text
  | instant i => cases made; exact i.isBare_text
  | string s => cases made; trivial
  | json raw => cases made

theorem Literal.readable_of_ofTypedText? {type : AttributeType} {s : String} {l : Literal}
    (made : ofTypedText? type s = some l) : l.Readable := by
  unfold ofTypedText? at made
  split at made
  · obtain ⟨u, -, rfl⟩ := Option.map_eq_some_iff.mp made
    exact u.isBare_text
  · split at made
    · obtain ⟨i, -, rfl⟩ := Option.map_eq_some_iff.mp made
      exact i.isBare_text
    · cases made

/-- What is compared with a text is quoted, or is an identifier or an instant. -/
theorem Literal.readable_of_ofTextual? {type : AttributeType} {v : Value} {l : Literal}
    (made : ofTextual? type v = some l) : l.Readable := by
  unfold ofTextual? at made
  split at made
  · rename_i u
    cases made
    split
    · trivial
    · exact u.isBare_text
  · rename_i i
    cases made
    split
    · trivial
    · exact i.isBare_text
  · rename_i s
    cases made
    cases typed : ofTypedText? type s with
    | none => trivial
    | some literal => exact readable_of_ofTypedText? typed
  · obtain ⟨text, -, rfl⟩ := Option.map_eq_some_iff.mp made
    trivial

theorem Literal.readable_of_ofTyped? {type : AttributeType} {v : Value} {l : Literal}
    (made : ofTyped? type v = some l) : l.Readable := by
  unfold ofTyped? at made
  split at made
  · exact readable_of_ofTextual? made
  · obtain ⟨text, read, rfl⟩ := Option.map_eq_some_iff.mp made
    exact (isNumeral_of_numericText? read).isBare
  · cases made
  · cases made
  · cases made
  · exact readable_of_ofOwnKind? made
  · obtain ⟨truth, -, rfl⟩ := Option.map_eq_some_iff.mp made
    trivial
  · cases made; trivial
  · cases made
  · exact readable_of_ofOwnKind? made

theorem Literal.ok_of_orMismatch {a : AttributeMetadata} {v : Value} {made : Option Literal}
    {l : Literal} (fits : orMismatch a v made = .ok l) : made = some l := by
  cases made with
  | none => cases fits
  | some literal => cases fits; rfl

/-- What is compared has a text by which it can be read. -/
theorem Literal.readable_of_ofComparison {a : AttributeMetadata} {v : Value} {l : Literal}
    (made : ofComparison a v = .ok l) : l.Readable := by
  have fits := ok_of_orMismatch made
  split at fits
  · cases fits; trivial
  · exact readable_of_ofTyped? fits

/-- What a function is told has a text by which it can be read. -/
theorem Literal.readable_of_ofArgument {a : AttributeMetadata} {v : Value} {l : Literal}
    (made : ofArgument a v = .ok l) : l.Readable :=
  readable_of_ofOwnKind? (ok_of_orMismatch made)

theorem Literal.readable_of_ofItem {a : AttributeMetadata} {v : Value} {l : Literal}
    (made : ofItem a v = .ok l) : l.Readable := by
  have fits := ok_of_orMismatch made
  split at fits
  · cases fits; trivial
  · obtain ⟨text, -, rfl⟩ := Option.map_eq_some_iff.mp fits
    trivial

/-- No operator's name holds a parenthesis. -/
theorem name_ne_parenthesis (operator : ConditionOperator) :
    ∀ c ∈ operator.name.toList, (c != '(') = true :=
  List.all_eq_true.mp (by cases operator <;> decide)

/-- A search and its negation are both readable. -/
theorem Expression.readable_negatedIf (negated : Bool) (function : StringFunction)
    {property : String} (identifier : isIdentifier property = true) (text : String) :
    (negatedIf negated (.search function property (.string text))).Readable := by
  cases negated with
  | false => exact .search function identifier trivial
  | true => exact .notSearch function identifier trivial

/-- Each form of conditions is written as a term by which it can be read, on an identifier. -/
theorem Expression.readable_of_ofForm {a : AttributeMetadata}
    (identifier : isIdentifier a.externalName = true) {c : Condition} {form : OperatorForm}
    {e : Expression} (compiled : ofForm a c form = .ok e) : e.Readable := by
  have named := name_ne_parenthesis c.operator
  unfold ofForm at compiled
  split at compiled
  · obtain ⟨literal, made, compiled⟩ := ok_of_bind_eq_ok compiled
    cases compiled
    exact .compare _ identifier (Literal.readable_of_ofComparison made)
  · obtain ⟨text, -, compiled⟩ := ok_of_bind_eq_ok compiled
    obtain ⟨function, -, compiled⟩ := ok_of_bind_eq_ok compiled
    cases compiled
    exact readable_negatedIf _ _ identifier _
  · obtain ⟨text, -, compiled⟩ := ok_of_bind_eq_ok compiled
    cases compiled
    exact readable_negatedIf _ _ identifier _
  · cases compiled
    exact .compare _ identifier trivial
  · -- a list is the one argument that is compiled value by value
    obtain ⟨items, made, compiled⟩ := ok_of_bind_eq_ok compiled
    cases compiled
    have readable : List.Forall₂ (fun _ literal => Literal.Readable literal) c.values items :=
      (forall₂_of_mapM_eq_ok made).imp fun v literal => Literal.readable_of_ofItem
    exact .call _ named (forall_mem_of_forall₂ readable)
  · obtain ⟨literal, made, compiled⟩ := ok_of_bind_eq_ok compiled
    cases compiled
    exact .call _ named (Literal.readable_of_ofArgument made)
  · cases compiled
    exact .call _ named trivial
  · obtain ⟨first, madeFirst, compiled⟩ := ok_of_bind_eq_ok compiled
    obtain ⟨second, madeSecond, compiled⟩ := ok_of_bind_eq_ok compiled
    cases compiled
    exact .call _ named
      ⟨Literal.readable_of_ofArgument madeFirst, Literal.readable_of_ofArgument madeSecond⟩
  · cases compiled

/-- Where the properties of an entity are identifiers, conditions have texts by which they can be
read. -/
theorem Expression.readable_of_ofCondition {m : EntityMetadata}
    (identifiers : ∀ a ∈ m.attributes, isIdentifier a.externalName = true) {c : Condition}
    {e : Expression} (compiled : ofCondition m c = .ok e) : e.Readable := by
  unfold ofCondition at compiled
  split at compiled
  · cases compiled
  · split at compiled
    · cases compiled
    · rename_i a found
      split at compiled
      · exact readable_of_ofForm (identifiers a (m.mem_attributes_of_lookup found)) compiled
      · cases compiled

/-- Every filter that a filter tree is compiled to has a text by which it can be read. -/
theorem Expression.readable_of_filterOf {m : EntityMetadata}
    (identifiers : ∀ a ∈ m.attributes, isIdentifier a.externalName = true) {g : FilterGroup}
    {e : Expression} (compiled : filterOf m g = .ok (some e)) : e.Readable := by
  have node {n : FilterNode} {e : Expression} (compiled : (filterDialect m).node n = .ok e) :
      e.Readable :=
    FilterDialect.node_preserves (readable_of_ofCondition identifiers) .all .any compiled
  obtain ⟨root, rooted, told⟩ := ok_of_map_eq_ok compiled
  split at told
  · cases told
  · subst told
    unfold FilterDialect.root at rooted
    split at rooted
    · cases rooted
    · obtain ⟨e', nodeCompiled, same⟩ := ok_of_map_eq_ok rooted
      cases same
      exact node nodeCompiled

/-- Where the properties of an entity are identifiers, the text of a compiled filter is read back as
that filter, and two compiled filters with one text are the same up to the connectives of groups of
one item. -/
theorem readFilter?_of_filterOf {m : EntityMetadata}
    (identifiers : ∀ a ∈ m.attributes, isIdentifier a.externalName = true) {g : FilterGroup}
    {e : Expression} (compiled : filterOf m g = .ok (some e)) :
    e.Readable ∧ readFilter? e.text = some e.asRead ∧
      ∀ g' e', filterOf m g' = .ok (some e') → e'.text = e.text → e'.asRead = e.asRead := by
  have readable := Expression.readable_of_filterOf identifiers compiled
  have read := readable.readFilter?_text
  refine ⟨readable, read, fun g' e' compiled' sameText => ?_⟩
  have read' := (Expression.readable_of_filterOf identifiers compiled').readFilter?_text
  rw [sameText, read] at read'
  exact (Option.some.inj read').symm

/-- An entity whose properties have the names of operators and functions. -/
def wordyEntity : EntityMetadata where
  logicalName := "note"
  externalName := "note"
  externalCollectionName := "notes"
  primaryIdAttribute := "id"
  attributes := [⟨"id", "not", .uniqueidentifier⟩, ⟨"text", "contains", .string⟩,
    ⟨"size", "true", .double⟩]

/-- A filter over every attribute of `wordyEntity`, whose values look like parts of a filter. -/
def wordyFilter : FilterGroup :=
  .any [.condition ⟨"id", .equal, [.string "00000000-0000-0000-0000-000000000001"]⟩,
    .condition ⟨"text", .isIn, [.string "x',y", .string "'])", .null]⟩,
    .group .and [],
    .group .or [.condition ⟨"text", .doesNotContain, [.string ") or (true"]⟩],
    .group .and [.condition ⟨"size", .lessThan, [.integer (-5)]⟩,
      .condition ⟨"size", .inFiscalPeriodAndYear, [.integer 1, .integer 2020]⟩]]

/-- Properties called like operators, and texts that look like the ends of lists and groups. -/
theorem readFilter?_of_wordyFilter : ∃ e, filterOf wordyEntity wordyFilter = .ok (some e) ∧
    e.Readable ∧ readFilter? e.text = some e.asRead ∧ ∀ g' e',
      filterOf wordyEntity g' = .ok (some e') → e'.text = e.text → e'.asRead = e.asRead :=
  ⟨_, rfl, readFilter?_of_filterOf (m := wordyEntity) (g := wordyFilter) (by decide) rfl⟩

end EntityGateway.OData
