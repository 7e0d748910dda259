import EntityGateway.Proofs.OData.Compiled
import EntityGateway.Proofs.Sql.Compiled

/-!
# What filters mean

A filter tree holds of a record by what its conditions say of it: `FilterGroup.value?`. Compiled
filters hold by what the atoms of the dialect say of it, `Expression.holds`, where joining nothing
means what the text `true` or `false` means. Neither compiler changes the meaning. Standing in for a
wrapped group, leaving a filter out and writing an empty group as a truth value never adds a record
to an answer or takes one from it. The same is true of what the texts are read as, which is all that
a store knows of a filter (`Sql.meaning_of_text`, `OData.meaning_of_text`).
-/

namespace EntityGateway

/-! ## The meaning of filter trees -/

mutual

/-- The value of a node, given those of the conditions. A group whose only child is a group has the
value of that child. A group joined by what is no operator has no value. -/
def FilterNode.value? (atom : Condition → Option Bool) : FilterNode → Option Bool
  | .condition c => atom c
  | .group _ [.group operator children] => FilterNode.value? atom (.group operator children)
  | .group .and children => (FilterNode.values? atom children).map fun values => values.all id
  | .group .or children => (FilterNode.values? atom children).map fun values => values.any id
  | .group (.unrecognized _) _ => none

/-- The values of nodes. -/
def FilterNode.values? (atom : Condition → Option Bool) : List FilterNode → Option (List Bool)
  | [] => some []
  | first :: rest => do
    let value ← FilterNode.value? atom first
    let values ← FilterNode.values? atom rest
    some (value :: values)

end

/-- The value of the root. A root without children holds of every record. -/
def FilterGroup.value? (atom : Condition → Option Bool) (g : FilterGroup) : Option Bool :=
  if g.children.isEmpty then some true else g.node.value? atom

namespace FilterNode

variable {atom : Condition → Option Bool}

/-- The operator of a group whose only child is a group has no say in its value. -/
theorem value?_wrapper (outer operator : LogicalOperator) (children : List FilterNode) :
    value? atom (.group outer [.group operator children]) =
      value? atom (.group operator children) := by
  rw [value?]

/-- All children of a group joined by And hold. -/
theorem value?_and {children : List FilterNode} (joins : Joins children) :
    value? atom (.group .and children) =
      (values? atom children).map fun values => values.all id := by
  rw [value?.eq_3 _ _ joins]

/-- Some child of a group joined by Or holds. -/
theorem value?_or {children : List FilterNode} (joins : Joins children) :
    value? atom (.group .or children) =
      (values? atom children).map fun values => values.any id := by
  rw [value?.eq_4 _ _ joins]

theorem values?_of_forall₂ {ns : List FilterNode} {values : List Bool}
    (each : List.Forall₂ (fun n value => n.value? atom = some value) ns values) :
    values? atom ns = some values := by
  induction each with
  | nil => rfl
  | cons first _ others => simp [values?, first, others]

end FilterNode

/-! ## Dialects that keep it -/

namespace FilterDialect

variable {E : Type} {dialect : FilterDialect E}

/-- What a dialect's atoms say of the conditions; a condition that does not compile has no atom. -/
def atomValue? (dialect : FilterDialect E) (truth : E → Bool) (c : Condition) : Option Bool :=
  (dialect.condition c).toOption.map truth

/-- A way to evaluate the expressions of a dialect that takes atoms for what they are and joined
expressions for what their items are. -/
structure Evaluates (dialect : FilterDialect E) (truth holds : E → Bool) : Prop where
  atom : ∀ {c e}, dialect.condition c = .ok e → holds e = truth e
  all : ∀ es, holds (dialect.all es) = es.all holds
  any : ∀ es, holds (dialect.any es) = es.any holds

variable {truth holds : E → Bool}

/-- A compiled node has the value of the node. -/
theorem Evaluates.node (evaluates : dialect.Evaluates truth holds) {n : FilterNode} {e : E}
    (compiled : dialect.node n = .ok e) :
    n.value? (dialect.atomValue? truth) = some (holds e) := by
  have items {ns : List FilterNode} {es : List E}
      (related : List.Forall₂ (fun n e => n.value? (dialect.atomValue? truth) = some (holds e))
        ns es) :
      FilterNode.values? (dialect.atomValue? truth) ns = some (es.map holds) :=
    FilterNode.values?_of_forall₂ (List.forall₂_map_right_iff.mpr related)
  refine node_relates (R := fun n e => n.value? (dialect.atomValue? truth) = some (holds e))
    ?_ ?_ ?_ ?_ compiled
  · intro c e compiled
    rw [FilterNode.value?, atomValue?, compiled, evaluates.atom compiled]
    rfl
  · intro outer operator children e value
    rw [FilterNode.value?_wrapper, value]
  · intro children es joins related
    rw [FilterNode.value?_and joins, items related, evaluates.all, Option.map_some, List.all_map]
    rfl
  · intro children es joins related
    rw [FilterNode.value?_or joins, items related, evaluates.any, Option.map_some, List.any_map]
    rfl

/-- A compiled root has the value of the root. -/
theorem Evaluates.root (evaluates : dialect.Evaluates truth holds) {g : FilterGroup}
    {filter : Option E} (compiled : dialect.root g = .ok filter) :
    g.value? (dialect.atomValue? truth) = some (filter.elim true holds) := by
  unfold FilterDialect.root at compiled
  unfold FilterGroup.value?
  split at compiled
  · rename_i childless
    cases compiled
    rw [if_pos childless, Option.elim_none]
  · rename_i children
    obtain ⟨e, nodeCompiled, rfl⟩ := ok_of_map_eq_ok compiled
    rw [if_neg children, evaluates.node nodeCompiled, Option.elim_some]

end FilterDialect

/-! ## Statements -/

namespace Sql

mutual

/-- The value of a condition, given those of the comparisons. -/
def Expression.holds (truth : Expression → Bool) : Expression → Bool
  | .all items => (Expression.itemValues truth items).all id
  | .any items => (Expression.itemValues truth items).any id
  | .literal (.boolean value) => value
  | e => truth e

/-- The values of joined conditions. -/
def Expression.itemValues (truth : Expression → Bool) : List Expression → List Bool
  | [] => []
  | first :: rest => first.holds truth :: Expression.itemValues truth rest

end

variable {truth : Expression → Bool}

theorem Expression.itemValues_eq_map (items : List Expression) :
    itemValues truth items = items.map (holds truth) := by
  induction items with
  | nil => rfl
  | cons first rest ih => rw [itemValues, List.map_cons, ih]

theorem Expression.holds_all (items : List Expression) :
    (all items).holds truth = items.all (holds truth) := by
  rw [holds, itemValues_eq_map, List.all_map]
  rfl

theorem Expression.holds_any (items : List Expression) :
    (any items).holds truth = items.any (holds truth) := by
  rw [holds, itemValues_eq_map, List.any_map]
  rfl

/-- What a group joined by And is read as has the value of the group, also where it has no items or
one. -/
theorem Expression.holds_grouped_all (items : List Expression) :
    (grouped .all .always items).holds truth = (itemValues truth items).all id := by
  match items with
  | [] => simp [grouped, always, holds, itemValues]
  | [item] => rw [grouped, holds]
  | first :: second :: others =>
      change (all (first :: second :: others)).holds truth = _
      rw [holds]

/-- What a group joined by Or is read as has the value of the group: none of no items holds, and of
one item it does not matter what joins it. -/
theorem Expression.holds_grouped_any (items : List Expression) :
    (grouped .any .never items).holds truth = (itemValues truth items).any id := by
  match items with
  | [] => simp [grouped, never, holds, itemValues]
  | [item] => simp [grouped, holds, itemValues]
  | first :: second :: others =>
      change (any (first :: second :: others)).holds truth = _
      rw [holds]

mutual

/-- What a text is read as has the value of what was written, where each comparison counts as what
its text tells. -/
theorem Expression.holds_asRead (truth : Expression → Bool) :
    (e : Expression) → e.asRead.holds truth = e.holds fun e => truth e.asRead
  | .all items => by
      rw [asRead, holds_grouped_all, itemValues_asRead truth items, holds]
  | .any items => by
      rw [asRead, holds_grouped_any, itemValues_asRead truth items, holds]
  | .compare left comparison right => by simp [asRead, holds]
  | .column c => rfl
  | .literal value => by
      cases value with
      | integer n | double d => simp [asRead, holds, Literal.asRead]
      | null | boolean | number | string => rfl

theorem Expression.itemValues_asRead (truth : Expression → Bool) : (items : List Expression) →
    itemValues truth (itemsAsRead items) = itemValues (fun e => truth e.asRead) items
  | [] => rfl
  | first :: rest => by
      rw [itemsAsRead, itemValues, holds_asRead truth first, itemValues_asRead truth rest,
        itemValues]

end

/-- A condition compiles to a comparison. -/
theorem Expression.eq_compare_of_ofCondition {m : EntityMetadata} {c : Condition} {e : Expression}
    (compiled : ofCondition m c = .ok e) :
    ∃ left comparison right, e = .compare left comparison right := by
  unfold ofCondition at compiled
  split at compiled
  · cases compiled
  · split at compiled
    · cases compiled
    · split at compiled
      · obtain ⟨literal, -, rfl⟩ := ok_of_map_eq_ok compiled
        exact ⟨_, _, _, rfl⟩
      · cases compiled

/-- The values of conditions in statements fit what compiling makes of filter trees: a comparison is
an atom, and groups are all or any of their items. -/
theorem evaluates_holds (m : EntityMetadata) (truth : Expression → Bool) :
    (filterDialect m).Evaluates truth (Expression.holds truth) where
  atom compiled := by
    obtain ⟨left, comparison, right, rfl⟩ := Expression.eq_compare_of_ofCondition compiled
    rw [Expression.holds]
    all_goals simp
  all := Expression.holds_all
  any := Expression.holds_any

/-- The condition of a statement has the value of the filter tree, also where it is left out. -/
theorem Expression.value?_of_ofCriteria {m : EntityMetadata} {g : FilterGroup} {e : Expression}
    (compiled : ofCriteria m g = .ok e) (truth : Expression → Bool) :
    g.value? ((filterDialect m).atomValue? truth) = some (e.holds truth) := by
  obtain ⟨filter, rooted, told⟩ := ok_of_map_eq_ok compiled
  rw [(evaluates_holds m truth).root rooted, ← told]
  -- no filter, a filter that joins nothing, and any other filter
  split
  · simp [always, holds]
  · simp [always, holds, itemValues]
  · rfl

/-- The text of a compiled statement means what the filter tree of the query means: it is read as a
statement whose condition has the value of the tree, whatever the comparisons say that the text
tells of. -/
theorem meaning_of_text {m : EntityMetadata} {q : Query} {s : Select}
    (compiled : Select.ofQuery m q = .ok s) :
    ∃ r, readSelect? s.text = some r ∧ ∀ truth : Expression → Bool,
      q.criteria.value? ((filterDialect m).atomValue? fun e => truth e.asRead) =
        some (r.condition.holds truth) := by
  refine ⟨s.asRead, (Select.readable_of_ofQuery compiled).readSelect?_text, fun truth => ?_⟩
  obtain ⟨columns, -, compiled⟩ := ok_of_bind_eq_ok compiled
  obtain ⟨order, -, compiled⟩ := ok_of_bind_eq_ok compiled
  obtain ⟨condition, filtered, compiled⟩ := ok_of_bind_eq_ok compiled
  cases compiled
  rw [Expression.value?_of_ofCriteria filtered, ← Expression.holds_asRead]
  rfl

end Sql

/-! ## Options -/

namespace OData

mutual

/-- The value of a filter, given those of its atoms. -/
def Expression.holds (truth : Expression → Bool) : Expression → Bool
  | .all items => (Expression.itemValues truth items).all id
  | .any items => (Expression.itemValues truth items).any id
  | .literal (.boolean value) => value
  | e => truth e

/-- The values of joined filters. -/
def Expression.itemValues (truth : Expression → Bool) : List Expression → List Bool
  | [] => []
  | first :: rest => first.holds truth :: Expression.itemValues truth rest

end

variable {truth : Expression → Bool}

theorem Expression.itemValues_eq_map (items : List Expression) :
    itemValues truth items = items.map (holds truth) := by
  induction items with
  | nil => rfl
  | cons first rest ih => rw [itemValues, List.map_cons, ih]

theorem Expression.holds_all (items : List Expression) :
    (all items).holds truth = items.all (holds truth) := by
  rw [holds, itemValues_eq_map, List.all_map]
  rfl

theorem Expression.holds_any (items : List Expression) :
    (any items).holds truth = items.any (holds truth) := by
  rw [holds, itemValues_eq_map, List.any_map]
  rfl

/-- What a group joined by Or is read as has the value of the group, also where it has one item. -/
theorem Expression.holds_anyOf (items : List Expression) :
    (anyOf items).holds truth = (itemValues truth items).any id := by
  match items with
  | [] => simp [anyOf, holds, itemValues]
  | [item] => simp [anyOf, holds, itemValues]
  | first :: second :: others =>
      change (any (first :: second :: others)).holds truth = _
      rw [holds]

mutual

/-- What a text is read as has the value of what was written, where each atom counts as what its
text tells. -/
theorem Expression.holds_asRead (truth : Expression → Bool) :
    (e : Expression) → e.asRead.holds truth = e.holds fun e => truth e.asRead
  | .all items => by rw [asRead, holds, itemValues_asRead truth items, holds]
  | .any items => by rw [asRead, holds_anyOf, itemValues_asRead truth items, holds]
  | .not item => by simp [asRead, holds]
  | .compare .. | .search .. | .call .. => by simp [asRead, holds]
  | .literal value => by cases value <;> simp [asRead, holds]

theorem Expression.itemValues_asRead (truth : Expression → Bool) : (items : List Expression) →
    itemValues truth (itemsAsRead items) = itemValues (fun e => truth e.asRead) items
  | [] => rfl
  | first :: rest => by
      rw [itemsAsRead, itemValues, holds_asRead truth first, itemValues_asRead truth rest,
        itemValues]

end

/-- What a condition compiles to is evaluated as an atom. -/
theorem Expression.holds_of_ofForm {a : AttributeMetadata} {c : Condition} {form : OperatorForm}
    {e : Expression} (compiled : ofForm a c form = .ok e) : e.holds truth = truth e := by
  have search (negated : Bool) (function : StringFunction) (property : String) (value : Literal) :
      (negatedIf negated (.search function property value)).holds truth =
        truth (negatedIf negated (.search function property value)) := by
    cases negated <;> simp [negatedIf, holds]
  unfold ofForm at compiled
  split at compiled
  · obtain ⟨literal, -, compiled⟩ := ok_of_bind_eq_ok compiled
    cases compiled
    simp [holds]
  · obtain ⟨text, -, compiled⟩ := ok_of_bind_eq_ok compiled
    obtain ⟨function, -, compiled⟩ := ok_of_bind_eq_ok compiled
    cases compiled
    exact search ..
  · obtain ⟨text, -, compiled⟩ := ok_of_bind_eq_ok compiled
    cases compiled
    exact search ..
  · cases compiled
    simp [holds]
  · obtain ⟨items, -, compiled⟩ := ok_of_bind_eq_ok compiled
    cases compiled
    simp [holds]
  · obtain ⟨literal, -, compiled⟩ := ok_of_bind_eq_ok compiled
    cases compiled
    simp [holds]
  · cases compiled
    simp [holds]
  · obtain ⟨first, -, compiled⟩ := ok_of_bind_eq_ok compiled
    obtain ⟨second, -, compiled⟩ := ok_of_bind_eq_ok compiled
    cases compiled
    simp [holds]
  · cases compiled

/-- What any condition is compiled to is an atom. In particular no condition is compiled to a truth
value. -/
theorem Expression.holds_of_ofCondition {m : EntityMetadata} {c : Condition} {e : Expression}
    (compiled : ofCondition m c = .ok e) : e.holds truth = truth e := by
  unfold ofCondition at compiled
  split at compiled
  · cases compiled
  · split at compiled
    · cases compiled
    · split at compiled
      · exact holds_of_ofForm compiled
      · cases compiled

/-- The values of filters in options fit what compiling makes of filter trees. -/
theorem evaluates_holds (m : EntityMetadata) (truth : Expression → Bool) :
    (filterDialect m).Evaluates truth (Expression.holds truth) where
  atom := Expression.holds_of_ofCondition
  all := Expression.holds_all
  any := Expression.holds_any

/-- The filter of the options has the value of the filter tree, also where there is none. -/
theorem value?_of_filterOf {m : EntityMetadata} {g : FilterGroup} {filter : Option Expression}
    (compiled : filterOf m g = .ok filter) (truth : Expression → Bool) :
    g.value? ((filterDialect m).atomValue? truth) =
      some (filter.elim true fun e => e.holds truth) := by
  obtain ⟨root, rooted, told⟩ := ok_of_map_eq_ok compiled
  rw [(evaluates_holds m truth).root rooted, ← told]
  split
  · simp [Expression.holds, Expression.itemValues]
  · rfl

/-- The text of a compiled filter means what the filter tree means, where the properties of the
entity are identifiers: it is read as a filter that has the value of the tree, whatever the atoms
say that the text tells of. -/
theorem meaning_of_text {m : EntityMetadata}
    (identifiers : ∀ a ∈ m.attributes, Text.isIdentifier a.externalName = true) {g : FilterGroup}
    {e : Expression} (compiled : filterOf m g = .ok (some e)) :
    ∃ r, readFilter? e.text = some r ∧ ∀ truth : Expression → Bool,
      g.value? ((filterDialect m).atomValue? fun e => truth e.asRead) = some (r.holds truth) := by
  have readable := Expression.readable_of_filterOf identifiers compiled
  refine ⟨e.asRead, readable.readFilter?_text, fun truth => ?_⟩
  rw [value?_of_filterOf compiled, Option.elim_some, ← Expression.holds_asRead]

end OData

/-! ## Both dialects -/

/-- Whatever the atoms of the dialect say, what a filter tree is compiled to has the value of the
tree. A condition that is left out of a statement and a filter that is left out of the options have
the value true. -/
theorem value?_of_compiled (m : EntityMetadata) (g : FilterGroup) :
    (∀ e, Sql.Expression.ofCriteria m g = .ok e → ∀ truth : Sql.Expression → Bool,
      g.value? (fun c => (Sql.Expression.ofCondition m c).toOption.map truth) =
        some (e.holds truth)) ∧
    (∀ filter, OData.filterOf m g = .ok filter → ∀ truth : OData.Expression → Bool,
      g.value? (fun c => (OData.Expression.ofCondition m c).toOption.map truth) =
        some (filter.elim true fun e => e.holds truth)) :=
  ⟨fun _ compiled truth => Sql.Expression.value?_of_ofCriteria compiled truth,
    fun _ compiled truth => OData.value?_of_filterOf compiled truth⟩

/-- A tree in which a group without children holds whatever the condition beside it says. -/
theorem value?_of_compiled_hostileQuery : ∃ e filter,
    Sql.Expression.ofCriteria Sql.hostileEntity Sql.hostileQuery.criteria = .ok e ∧
    OData.filterOf Sql.hostileEntity Sql.hostileQuery.criteria = .ok filter ∧
    (e.holds fun _ => false) = true ∧
    (filter.elim true fun e => e.holds fun _ => false) = true := by
  have meaning := value?_of_compiled Sql.hostileEntity Sql.hostileQuery.criteria
  refine ⟨_, _, rfl, rfl, Option.some.inj ?_, Option.some.inj ?_⟩
  · exact (meaning.1 _ rfl fun _ => false).symm.trans rfl
  · exact (meaning.2 _ rfl fun _ => false).symm.trans rfl

end EntityGateway
