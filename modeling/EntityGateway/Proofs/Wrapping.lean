import EntityGateway.OData.Compile
import EntityGateway.Proofs.FilterTrees
import EntityGateway.Sql.Compile

/-!
# Wrapped filters

A group whose only child is a group compiles to what that child compiles to, so a filter may be
wrapped in further groups without any change (`compiled_of_wraps`). The root is special in one way:
without children it is no filter at all, whatever its operator, while an empty group within another
group is the truth value that its operator joins nothing to. For a group joined by And the two come
to the same. An empty group joined by Or is no filter at the root, but false once it is wrapped; and
the unknown operator of an empty group is found out only then.
-/

namespace EntityGateway

namespace FilterGroup

/-- The second group is the first one, or wraps it in any number of groups joined by And or Or. -/
inductive Wraps (g : FilterGroup) : FilterGroup → Prop
  | itself : Wraps g g
  | all {w : FilterGroup} : Wraps g w → Wraps g (.all [w.node])
  | any {w : FilterGroup} : Wraps g w → Wraps g (.any [w.node])

end FilterGroup

/-- Without children, there is no only child that could be a group. -/
theorem FilterNode.joins_nil : Joins [] :=
  nofun

namespace FilterDialect

variable {E β : Type} {dialect : FilterDialect E} {g w : FilterGroup}

/-- Wrapping a group changes nothing about what it compiles to as a node. -/
theorem node_of_wraps (wraps : g.Wraps w) : dialect.node w.node = dialect.node g.node := by
  induction wraps with
  | itself => rfl
  | all _ ih => exact (dialect.node_wrapper .and _ _).trans ih
  | any _ ih => exact (dialect.node_wrapper .or _ _).trans ih

/-- A root with children is compiled as any node is. -/
theorem root_of_children (children : g.children ≠ []) :
    dialect.root g = (dialect.node g.node).map some := by
  have given : g.children.isEmpty = false := List.isEmpty_eq_false_iff.mpr children
  rw [root, given]
  rfl

/-- A root without children is no filter, whatever its operator is. -/
theorem root_of_nil (empty : g.children = []) : dialect.root g = .ok none := by
  rw [root, empty]
  rfl

/-- A group that was wrapped at least once is compiled as a node. -/
theorem root_of_wraps (wraps : g.Wraps w) (wrapped : w ≠ g) :
    dialect.root w = (dialect.node g.node).map some := by
  have children : w.children ≠ [] := by
    cases wraps with
    | itself => exact absurd rfl wrapped
    | all _ | any _ => exact List.cons_ne_nil _ _
  rw [root_of_children children, node_of_wraps wraps]

theorem node_and_nil (dialect : FilterDialect E) :
    dialect.node (.group .and []) = .ok (dialect.all []) :=
  node_and FilterNode.joins_nil

theorem node_or_nil (dialect : FilterDialect E) :
    dialect.node (.group .or []) = .ok (dialect.any []) :=
  node_or FilterNode.joins_nil

/-- Within a filter, even a group without children is refused for an unknown operator. -/
theorem node_unrecognized_nil (dialect : FilterDialect E) (name : String) :
    dialect.node (.group (.unrecognized name) []) = .error (.invalidLogicalOperator name) :=
  node_unrecognized FilterNode.joins_nil name

/-- Wrapping the root changes nothing, if no filter is taken for the same as the group that demands
nothing, and the root is not empty or is joined by And. -/
theorem map_root_of_wraps {f : Option E → β} (demandsNothing : f (some (dialect.all [])) = f none)
    (lawful : g.children ≠ [] ∨ g.operator = .and) (wraps : g.Wraps w) :
    (dialect.root w).map f = (dialect.root g).map f := by
  by_cases wrapped : w = g
  · rw [wrapped]
  rw [root_of_wraps wraps wrapped]
  by_cases children : g.children = []
  · have joined : g.operator = .and := lawful.resolve_left fun given => given children
    have node : dialect.node g.node = .ok (dialect.all []) := by
      rw [FilterGroup.node, joined, children, node_and_nil]
    rw [node, root_of_nil children]
    exact congrArg Except.ok demandsNothing
  · rw [root_of_children children]

/-- A wrapped group compiles to what the group compiles to within another one, even where it is no
filter as the root because it has no children. -/
theorem root_of_wraps_or_nil (joined : g.operator = .or) (empty : g.children = [])
    (wraps : g.Wraps w) (wrapped : w ≠ g) : dialect.root w = .ok (some (dialect.any [])) := by
  rw [root_of_wraps wraps wrapped, FilterGroup.node, joined, empty, node_or_nil]
  rfl

theorem root_of_wraps_unrecognized_nil {name : String} (joined : g.operator = .unrecognized name)
    (empty : g.children = []) (wraps : g.Wraps w) (wrapped : w ≠ g) :
    dialect.root w = .error (.invalidLogicalOperator name) := by
  rw [root_of_wraps wraps wrapped, FilterGroup.node, joined, empty,
    node_unrecognized_nil]
  rfl

end FilterDialect

/-! ## Both dialects -/

namespace Sql

variable {m : EntityMetadata} {g w : FilterGroup}

/-- Wrapping a filter that has children, or is joined by And, does not change the condition of a
statement. -/
theorem ofCriteria_of_wraps (lawful : g.children ≠ [] ∨ g.operator = .and) (wraps : g.Wraps w) :
    Expression.ofCriteria m w = Expression.ofCriteria m g :=
  FilterDialect.map_root_of_wraps rfl lawful wraps

theorem ofCriteria_of_nil (m : EntityMetadata) (empty : g.children = []) :
    Expression.ofCriteria m g = .ok .always := by
  rw [Expression.ofCriteria, FilterDialect.root_of_nil empty]
  rfl

/-- An empty group joined by Or is the condition that never holds once it is wrapped. -/
theorem ofCriteria_of_wraps_or_nil (joined : g.operator = .or) (empty : g.children = [])
    (wraps : g.Wraps w) (wrapped : w ≠ g) : Expression.ofCriteria m w = .ok (.any []) := by
  rw [Expression.ofCriteria, FilterDialect.root_of_wraps_or_nil joined empty wraps wrapped]
  rfl

theorem ofCriteria_of_wraps_unrecognized_nil {name : String}
    (joined : g.operator = .unrecognized name) (empty : g.children = []) (wraps : g.Wraps w)
    (wrapped : w ≠ g) : Expression.ofCriteria m w = .error (.invalidLogicalOperator name) := by
  rw [Expression.ofCriteria,
    FilterDialect.root_of_wraps_unrecognized_nil joined empty wraps wrapped]
  rfl

theorem ofQuery_of_ofCriteria (q : Query)
    (same : Expression.ofCriteria m w = Expression.ofCriteria m g) :
    Select.ofQuery m { q with criteria := w } = Select.ofQuery m { q with criteria := g } := by
  simp only [Select.ofQuery, same]

end Sql

namespace OData

variable {m : EntityMetadata} {g w : FilterGroup}

/-- Wrapping a filter that has children, or is joined by And, does not change the filter of the
options. -/
theorem filterOf_of_wraps (lawful : g.children ≠ [] ∨ g.operator = .and) (wraps : g.Wraps w) :
    filterOf m w = filterOf m g :=
  FilterDialect.map_root_of_wraps rfl lawful wraps

theorem filterOf_of_nil (m : EntityMetadata) (empty : g.children = []) :
    filterOf m g = .ok none := by
  rw [filterOf, FilterDialect.root_of_nil empty]
  rfl

/-- An empty group joined by Or is the filter that never holds once it is wrapped. -/
theorem filterOf_of_wraps_or_nil (joined : g.operator = .or) (empty : g.children = [])
    (wraps : g.Wraps w) (wrapped : w ≠ g) : filterOf m w = .ok (some (.any [])) := by
  rw [filterOf, FilterDialect.root_of_wraps_or_nil joined empty wraps wrapped]
  rfl

theorem filterOf_of_wraps_unrecognized_nil {name : String}
    (joined : g.operator = .unrecognized name) (empty : g.children = []) (wraps : g.Wraps w)
    (wrapped : w ≠ g) : filterOf m w = .error (.invalidLogicalOperator name) := by
  rw [filterOf, FilterDialect.root_of_wraps_unrecognized_nil joined empty wraps wrapped]
  rfl

theorem ofQuery_of_filterOf (q : Query) (same : filterOf m w = filterOf m g) :
    Options.ofQuery m { q with criteria := w } = Options.ofQuery m { q with criteria := g } := by
  simp only [Options.ofQuery, same]

end OData

/-- A filter that has a child, or is joined by And, is compiled to the same whether it is wrapped or
not, and so is a query with it. A group without children is no filter at the root, whatever its
operator; once it is wrapped, the empty group joined by Or is the group that nothing satisfies, and
one with an unknown operator is refused for its operator. -/
theorem compiled_of_wraps (m : EntityMetadata) {g w : FilterGroup} (wraps : g.Wraps w) :
    (g.children ≠ [] ∨ g.operator = .and →
      Sql.Expression.ofCriteria m w = Sql.Expression.ofCriteria m g ∧
      OData.filterOf m w = OData.filterOf m g ∧
      ∀ q : Query,
        Sql.Select.ofQuery m { q with criteria := w } =
          Sql.Select.ofQuery m { q with criteria := g } ∧
        OData.Options.ofQuery m { q with criteria := w } =
          OData.Options.ofQuery m { q with criteria := g }) ∧
    (g.children = [] →
      Sql.Expression.ofCriteria m g = .ok .always ∧ OData.filterOf m g = .ok none ∧
      (w ≠ g →
        (g.operator = .or →
          Sql.Expression.ofCriteria m w = .ok (.any []) ∧
          OData.filterOf m w = .ok (some (.any []))) ∧
        ∀ name, g.operator = .unrecognized name →
          Sql.Expression.ofCriteria m w = .error (.invalidLogicalOperator name) ∧
          OData.filterOf m w = .error (.invalidLogicalOperator name))) := by
  constructor
  · intro lawful
    have condition := Sql.ofCriteria_of_wraps (m := m) lawful wraps
    have filter := OData.filterOf_of_wraps (m := m) lawful wraps
    refine ⟨condition, filter, fun q => ⟨?_, ?_⟩⟩
    · exact Sql.ofQuery_of_ofCriteria q condition
    · exact OData.ofQuery_of_filterOf q filter
  · intro empty
    refine ⟨Sql.ofCriteria_of_nil m empty, OData.filterOf_of_nil m empty, fun wrapped => ?_⟩
    refine ⟨fun joined => ⟨?_, ?_⟩, fun name joined => ⟨?_, ?_⟩⟩
    · exact Sql.ofCriteria_of_wraps_or_nil joined empty wraps wrapped
    · exact OData.filterOf_of_wraps_or_nil joined empty wraps wrapped
    · exact Sql.ofCriteria_of_wraps_unrecognized_nil joined empty wraps wrapped
    · exact OData.filterOf_of_wraps_unrecognized_nil joined empty wraps wrapped

/-- An entity without attributes. -/
def EntityMetadata.bare : EntityMetadata :=
  ⟨"book", "book", "books", "bookid", []⟩

/-- Two empty groups and a condition on an attribute that does not exist. -/
def FilterGroup.odd : FilterGroup :=
  .any [.group .or [], .group .and [], .condition ⟨"title", .equal, [.null]⟩]

/-- Three wrappers around two empty groups and a condition that does not compile. -/
theorem compiled_of_wraps_odd :
    let g := FilterGroup.odd
    let w : FilterGroup := .all [(FilterGroup.any [(FilterGroup.all [g.node]).node]).node]
    g.Wraps w ∧ (g.children ≠ [] ∨ g.operator = .and) ∧
      Sql.Expression.ofCriteria .bare w = Sql.Expression.ofCriteria .bare g ∧
      OData.filterOf .bare w = OData.filterOf .bare g := by
  intro g w
  have wraps : g.Wraps w := .all (.any (.all .itself))
  have lawful : g.children ≠ [] ∨ g.operator = .and := .inl (List.cons_ne_nil _ _)
  have same := (compiled_of_wraps .bare wraps).1 lawful
  exact ⟨wraps, lawful, same.1, same.2.1⟩

/-- Wrapping an empty group joined by Or makes a filter of what was none. -/
theorem wrapping_any_nil_matters :
    ¬ (∀ m g, Sql.Expression.ofCriteria m (.all [g.node]) = Sql.Expression.ofCriteria m g) ∧
    ¬ (∀ m g, OData.filterOf m (.all [g.node]) = OData.filterOf m g) := by
  have wrapped : FilterGroup.all [(FilterGroup.any []).node] ≠ .any [] := nofun
  constructor
  · intro law
    have same := law .bare (.any [])
    rw [Sql.ofCriteria_of_wraps_or_nil rfl rfl (.all .itself) wrapped] at same
    cases same
  · intro law
    have same := law .bare (.any [])
    rw [OData.filterOf_of_wraps_or_nil rfl rfl (.all .itself) wrapped] at same
    cases same

end EntityGateway
