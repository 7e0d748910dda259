import EntityGateway.Proofs.FilterTrees
import EntityGateway.Proofs.Metadata

/-!
# The checks of a query

Compiling a query is a chain of checks, each of one small thing: a name, an operator, the number of
the values of a condition, a value. Here they are listed, in the order in which they are made, apart
from any compiling: `Query.checks`. What a check demands of a condition differs between the dialects
and is a parameter (`Demands`). A computation that makes some checks in turn is known by the cause
for which it fails, `cause?`, which is that of the first check that does.
-/

namespace EntityGateway

/-! ## Causes of computations -/

section Causes

variable {ε α β ι κ : Type}

/-- The cause for which a computation failed, if it did. -/
def cause? : Except ε α → Option ε
  | .error cause => some cause
  | .ok _ => none

theorem cause?_eq_some_iff {x : Except ε α} {cause : ε} :
    cause? x = some cause ↔ x = .error cause := by
  cases x <;> simp [cause?]

/-- A computation went well exactly if there is no cause. -/
theorem cause?_eq_none_iff {x : Except ε α} : cause? x = none ↔ ∃ a, x = .ok a := by
  cases x <;> simp [cause?]

theorem cause?_map (f : α → β) (x : Except ε α) : cause? (x.map f) = cause? x := by
  cases x <;> rfl

/-- Of two computations in a row the second one matters only if the first went well. -/
theorem cause?_bind {f : α → Except ε β} {later : Option ε} (next : ∀ a, cause? (f a) = later)
    (x : Except ε α) : cause? (x >>= f) = (cause? x).or later := by
  cases x with
  | error cause => rfl
  | ok a => exact next a

/-- Finishing a computation does not make it fail. -/
theorem cause?_bind_pure (f : α → β) (x : Except ε α) :
    cause? (x >>= fun a => pure (f a)) = cause? x := by
  cases x <;> rfl

/-- A list computed item by item fails for the cause of the first item that does. -/
theorem cause?_mapM {f : ι → Except ε α} {faults : ι → Option ε} {items : List ι}
    (each : ∀ i ∈ items, cause? (f i) = faults i) :
    cause? (items.mapM f) = items.findSome? faults := by
  induction items with
  | nil => rfl
  | cons i items ih =>
      obtain ⟨first, others⟩ := List.forall_mem_cons.mp each
      rw [List.mapM_cons, cause?_bind (fun _ => cause?_bind_pure _ _), first, ih others,
        List.findSome?_cons]
      cases faults i <;> rfl

theorem findSome?_flatMap (f : κ → Option ε) (g : ι → List κ) (items : List ι) :
    (items.flatMap g).findSome? f = items.findSome? fun i => (g i).findSome? f := by
  induction items with
  | nil => rfl
  | cons i items ih =>
      rw [List.flatMap_cons, List.findSome?_append, ih, List.findSome?_cons]
      cases (g i).findSome? f <;> rfl

/-- Checks decide about a computation: it goes well exactly if all of them do, and it fails exactly
if one of them does, for the cause of the first one. -/
structure DecidedBy (fault? : κ → Option ε) (checks : List κ) (x : Except ε α) : Prop where
  succeeds : (∃ a, x = .ok a) ↔ ∀ check ∈ checks, fault? check = none
  fails : ∀ cause, x = .error cause ↔ ∃ before check after, checks = before ++ check :: after ∧
    (∀ earlier ∈ before, fault? earlier = none) ∧ fault? check = some cause

/-- Checks decide about a computation that fails for the first of them that fails. -/
theorem decidedBy_of_cause? {fault? : κ → Option ε} {checks : List κ} {x : Except ε α}
    (first : cause? x = checks.findSome? fault?) : DecidedBy fault? checks x where
  succeeds := by rw [← cause?_eq_none_iff, first, List.findSome?_eq_none_iff]
  fails cause := by
    rw [← cause?_eq_some_iff, first, List.findSome?_eq_some_iff]
    simp only [and_comm]

end Causes

/-! ## What is checked -/

/-- One thing that is looked at when a query is compiled. -/
inductive Check where
  /-- The entity has an attribute of the name. -/
  | attribute (name : String)
  /-- The operator can join the children of a group. -/
  | connective (operator : LogicalOperator)
  /-- The dialect can write conditions with the operator. -/
  | operator (operator : ConditionOperator)
  /-- A condition with the operator may carry so many values. -/
  | valueCount (operator : ConditionOperator) (count : Nat)
  /-- A condition with the operator may carry the value, if it is on the attribute. -/
  | value (attributeName : String) (operator : ConditionOperator) (value : Value)

/-- What a dialect demands of a condition. -/
structure Demands where
  /-- Why there can be no condition with an operator. -/
  operatorFault? : ConditionOperator → Option CompileError
  /-- How many values a condition with an operator carries. -/
  arity : ConditionOperator → Arity
  /-- Why a value cannot stand in a condition with an operator on an attribute. -/
  valueFault? : ConditionOperator → AttributeMetadata → Value → Option CompileError

/-- The cause for which a check fails, if it does. -/
def Check.fault? (demands : Demands) (m : EntityMetadata) : Check → Option CompileError
  | .attribute name =>
    if ∃ a ∈ m.attributes, a.logicalName = name then none
    else some (.unknownAttribute ⟨m.logicalName, name⟩)
  | .connective (.unrecognized name) => some (.invalidLogicalOperator name)
  | .connective _ => none
  | .operator used => demands.operatorFault? used
  | .valueCount used count =>
    if (demands.arity used).accepts count then none
    else some (.unexpectedValueCount used (demands.arity used) count)
  | .value name used v => (m.attribute? name).bind fun a => demands.valueFault? used a v

/-- The checks of a condition: its operator, its attribute, the number of its values, and then the
values from left to right. -/
def Condition.checks (c : Condition) : List Check :=
  .operator c.operator :: .attribute c.attributeName ::
    .valueCount c.operator c.values.length ::
    c.values.map (.value c.attributeName c.operator)

mutual

/-- The checks of a node. The operator of a group comes before the children. A group whose only
child is a group is passed over for that child. -/
def FilterNode.checks : FilterNode → List Check
  | .condition c => c.checks
  | .group _ [.group operator children] => FilterNode.checks (.group operator children)
  | .group operator children => .connective operator :: FilterNode.childChecks children

/-- The checks of nodes from left to right. -/
def FilterNode.childChecks : List FilterNode → List Check
  | [] => []
  | first :: rest => first.checks ++ FilterNode.childChecks rest

end

/-- The checks of a filter. If the root has no children there are none. -/
def FilterGroup.checks (g : FilterGroup) : List Check :=
  if g.children.isEmpty then [] else g.node.checks

/-- The checks of a column set, if only some columns are asked for. What is always answered with
them comes last. -/
def ColumnSet.checks (columnSet : ColumnSet) (alsoAnswered : List String) : List Check :=
  if columnSet.isRestricted then (columnSet.columns ++ alsoAnswered).map .attribute else []

/-- The check of an order. -/
def Order.check (order : Order) : Check :=
  .attribute order.attributeName

/-- The checks of a query: the columns, then the orders, then the filter. -/
def Query.checks (q : Query) (alsoAnswered : List String) : List Check :=
  q.columnSet.checks alsoAnswered ++ q.orders.map Order.check ++ q.criteria.checks

/-! ## Names -/

section Checking

variable {demands : Demands} {m : EntityMetadata} {E α : Type}

/-- A name is unknown exactly if its check fails. -/
theorem EntityMetadata.cause?_lookup (demands : Demands) (m : EntityMetadata) (name : String) :
    cause? (m.lookup name) = (Check.attribute name).fault? demands m := by
  rw [lookup, attributeNamed, Check.fault?]
  cases found : m.attribute? name with
  | none =>
      have unknown : ¬ ∃ a ∈ m.attributes, a.logicalName = name := by
        rintro ⟨a, member, named⟩
        exact attribute?_eq_none_iff.mp found a member named
      rw [if_neg unknown]
      rfl
  | some a =>
      obtain ⟨member, named⟩ := of_attribute? found
      rw [if_pos ⟨a, member, named⟩]
      rfl

theorem EntityMetadata.cause?_externalFor (demands : Demands) (m : EntityMetadata)
    (name : String) : cause? (m.externalFor name) = (Check.attribute name).fault? demands m := by
  rw [← cause?_lookup, lookup, externalFor, toExternal]
  cases m.attributeNamed name <;> rfl

/-- Columns are looked up from left to right, each by the check of its name. -/
theorem EntityMetadata.cause?_projection (demands : Demands) (m : EntityMetadata)
    (columns : List String) : cause? (m.projection columns) =
      (columns.map Check.attribute).findSome? (Check.fault? demands m) := by
  rw [projection, cause?_map, List.findSome?_map]
  exact cause?_mapM fun name _ => m.cause?_externalFor demands name

/-- Orders are looked up from left to right, each by the check of its name. -/
theorem EntityMetadata.cause?_ordering (demands : Demands) (m : EntityMetadata)
    (orders : List Order) : cause? (m.ordering orders) =
      (orders.map Order.check).findSome? (Check.fault? demands m) := by
  rw [ordering, List.findSome?_map]
  exact cause?_mapM fun order _ =>
    (cause?_bind_pure _ _).trans (m.cause?_externalFor demands order.attributeName)

/-! ## Filters -/

/-- The first fault of a condition. The values are looked at only if the attribute is known. -/
theorem Condition.findSome?_checks (demands : Demands) (m : EntityMetadata) (c : Condition) :
    c.checks.findSome? (Check.fault? demands m) =
      match demands.operatorFault? c.operator with
      | some cause => some cause
      | none =>
        match m.lookup c.attributeName with
        | .error cause => some cause
        | .ok a =>
          if (demands.arity c.operator).accepts c.values.length then
            c.values.findSome? (demands.valueFault? c.operator a)
          else
            some (.unexpectedValueCount c.operator (demands.arity c.operator) c.values.length) := by
  rw [checks, List.findSome?_cons, List.findSome?_cons, List.findSome?_cons, List.findSome?_map,
    ← EntityMetadata.cause?_lookup]
  simp only [Check.fault?]
  cases demands.operatorFault? c.operator with
  | some cause => rfl
  | none =>
      cases found : m.lookup c.attributeName with
      | error cause => rfl
      | ok a =>
          -- the check of a value finds the attribute that was looked up
          have value : Check.fault? demands m ∘ Check.value c.attributeName c.operator =
              demands.valueFault? c.operator a := by
            funext v
            rw [Function.comp_apply, Check.fault?, EntityMetadata.attribute?_of_lookup found]
            rfl
          rw [value]
          simp only [cause?]
          split_ifs <;> rfl

namespace FilterNode

/-- The operator of a group whose only child is a group is not checked. -/
theorem checks_wrapper (outer operator : LogicalOperator) (children : List FilterNode) :
    checks (.group outer [.group operator children]) = checks (.group operator children) := by
  rw [checks]

theorem childChecks_eq_flatMap (ns : List FilterNode) : childChecks ns = ns.flatMap checks := by
  induction ns with
  | nil => rfl
  | cons n ns ih => rw [childChecks, List.flatMap_cons, ih]

/-- The operator of any other group is checked before its children. -/
theorem checks_group {children : List FilterNode} (joins : Joins children)
    (operator : LogicalOperator) :
    checks (.group operator children) = .connective operator :: children.flatMap checks := by
  rw [checks.eq_3 _ _ joins, childChecks_eq_flatMap]

end FilterNode

/-- A filter tree fails as its first check that fails, if conditions do. -/
theorem FilterDialect.cause?_node {dialect : FilterDialect E}
    (condition : ∀ c, cause? (dialect.condition c) =
      c.checks.findSome? (Check.fault? demands m)) (n : FilterNode) :
    cause? (dialect.node n) = n.checks.findSome? (Check.fault? demands m) := by
  induction n using FilterNode.induction with
  | condition c => rw [node, condition, FilterNode.checks]
  | group operator children ih =>
      obtain ⟨inner, grandchildren, rfl⟩ | joins := FilterNode.wraps_or_joins children
      · rw [node_wrapper, FilterNode.checks_wrapper]
        exact ih _ (List.mem_singleton_self _)
      · -- with its own operator known, the group fails as the first of its children that does
        have items : cause? (children.mapM dialect.node) =
            (children.flatMap FilterNode.checks).findSome? (Check.fault? demands m) := by
          rw [findSome?_flatMap]
          exact cause?_mapM ih
        rw [FilterNode.checks_group joins, List.findSome?_cons]
        cases operator with
        | and => rw [node_and joins, cause?_map, items]; rfl
        | or => rw [node_or joins, cause?_map, items]; rfl
        | unrecognized name => rw [node_unrecognized joins]; rfl

/-- A root without children is compiled without any check. -/
theorem FilterDialect.cause?_root {dialect : FilterDialect E}
    (condition : ∀ c, cause? (dialect.condition c) =
      c.checks.findSome? (Check.fault? demands m)) (g : FilterGroup) :
    cause? (dialect.root g) = g.checks.findSome? (Check.fault? demands m) := by
  rw [root, FilterGroup.checks]
  split_ifs
  · rfl
  · rw [cause?_map, cause?_node condition]

end Checking

end EntityGateway
