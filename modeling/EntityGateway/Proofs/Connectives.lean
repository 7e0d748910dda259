import EntityGateway.Proofs.Wrapping

/-!
# Groups with an unknown operator

A filter with an operator other than And and Or is refused wherever the operator is looked at,
however deep its group stands: every node of a tree that compiles compiles itself, and such a group
does not. `FilterGroup.HasConnective` says where an operator is looked at: in every group but two
kinds, once the root has children. So a nested group without children and a group of one condition
are refused for their operator, although they have nothing to join.

The two kinds are a root without children, which is no filter, and a group whose only child is a
group, for which the child stands. A name that means nothing goes unnoticed there, although such
names are only kept so that they can be refused.
-/

namespace EntityGateway

namespace FilterNode

/-- A node is the tree itself or stands within it, at any depth. -/
inductive Occurs (d : FilterNode) : FilterNode → Prop
  | here : Occurs d d
  | child {operator : LogicalOperator} {children : List FilterNode} {n : FilterNode} :
    n ∈ children → Occurs d n → Occurs d (.group operator children)

end FilterNode

/-- The filter has children, and a group in it, at whatever depth and be it the root, has the
operator and children that are not exactly one group: none, one condition, or several children. -/
def FilterGroup.HasConnective (g : FilterGroup) (operator : LogicalOperator) : Prop :=
  g.children ≠ [] ∧ ∃ children, FilterNode.Joins children ∧
    FilterNode.Occurs (.group operator children) g.node

namespace FilterDialect

variable {E β : Type} {dialect : FilterDialect E} {g : FilterGroup} {name : String}

/-- All children of a group that compiles compile, unless it only wraps a group. -/
theorem exists_mapM_of_node_group {operator : LogicalOperator} {children : List FilterNode} {e : E}
    (joins : FilterNode.Joins children)
    (compiled : dialect.node (.group operator children) = .ok e) :
    ∃ es, children.mapM dialect.node = .ok es := by
  cases operator with
  | and =>
      rw [node_and joins] at compiled
      obtain ⟨es, computed, -⟩ := ok_of_map_eq_ok compiled
      exact ⟨es, computed⟩
  | or =>
      rw [node_or joins] at compiled
      obtain ⟨es, computed, -⟩ := ok_of_map_eq_ok compiled
      exact ⟨es, computed⟩
  | unrecognized name =>
      rw [node_unrecognized joins] at compiled
      cases compiled

/-- Every node of a tree that compiles compiles itself. -/
theorem exists_ok_of_occurs {n d : FilterNode} {e : E} (occurs : d.Occurs n)
    (compiled : dialect.node n = .ok e) : ∃ e', dialect.node d = .ok e' := by
  induction occurs generalizing e with
  | here => exact ⟨e, compiled⟩
  | @child operator children n member _ ih =>
      obtain ⟨inner, grandchildren, rfl⟩ | joins := FilterNode.wraps_or_joins children
      · rw [node_wrapper] at compiled
        rw [List.mem_singleton.mp member] at ih
        exact ih compiled
      · obtain ⟨es, computed⟩ := exists_mapM_of_node_group joins compiled
        obtain ⟨e', -, child⟩ := exists_beside_left (forall₂_of_mapM_eq_ok computed) member
        exact ih child

/-- A tree that is refused for an unknown operator has a group with it that does not only wrap a
group, as long as no condition is refused for such a cause. -/
theorem exists_occurs_of_node_error {n : FilterNode}
    (conditions : ∀ c, dialect.condition c ≠ .error (.invalidLogicalOperator name))
    (refused : dialect.node n = .error (.invalidLogicalOperator name)) :
    ∃ children, FilterNode.Joins children ∧
      FilterNode.Occurs (.group (.unrecognized name) children) n := by
  induction n using FilterNode.induction with
  | condition c =>
      rw [node] at refused
      exact absurd refused (conditions c)
  | group operator children ih =>
      have within {n : FilterNode} (member : n ∈ children)
          (refused : dialect.node n = .error (.invalidLogicalOperator name)) :
          ∃ joined, FilterNode.Joins joined ∧
            FilterNode.Occurs (.group (.unrecognized name) joined) (.group operator children) := by
        obtain ⟨joined, joins, occurs⟩ := ih n member refused
        exact ⟨joined, joins, .child member occurs⟩
      have amongChildren
          (failed : children.mapM dialect.node = .error (.invalidLogicalOperator name)) :
          ∃ joined, FilterNode.Joins joined ∧
            FilterNode.Occurs (.group (.unrecognized name) joined) (.group operator children) := by
        obtain ⟨index, ⟨n, found, refused⟩, -⟩ := firstFailure_of_mapM_eq_error failed
        exact within (List.mem_of_getElem? found) refused
      obtain ⟨inner, grandchildren, single⟩ | joins := FilterNode.wraps_or_joins children
      · rw [single, node_wrapper] at refused
        exact within (by simp [single]) refused
      · cases operator with
        | and =>
            rw [node_and joins] at refused
            exact amongChildren (error_of_map_eq_error refused)
        | or =>
            rw [node_or joins] at refused
            exact amongChildren (error_of_map_eq_error refused)
        | unrecognized other =>
            rw [node_unrecognized joins] at refused
            cases refused
            exact ⟨children, joins, .here⟩

/-- A filter with an unknown connective is not compiled, whatever becomes of the root. -/
theorem exists_error_of_connective {f : Option E → β}
    (connective : g.HasConnective (.unrecognized name)) :
    ∃ cause, (dialect.root g).map f = .error cause := by
  obtain ⟨children, joined, joins, occurs⟩ := connective
  rw [root_of_children children]
  cases compiled : dialect.node g.node with
  | error cause => exact ⟨cause, rfl⟩
  | ok e =>
      obtain ⟨e', ok⟩ := exists_ok_of_occurs occurs compiled
      rw [node_unrecognized joins] at ok
      cases ok

/-- A filter that is refused for an unknown operator has it as a connective. -/
theorem hasConnective_of_root_error {f : Option E → β}
    (conditions : ∀ c, dialect.condition c ≠ .error (.invalidLogicalOperator name))
    (refused : (dialect.root g).map f = .error (.invalidLogicalOperator name)) :
    g.HasConnective (.unrecognized name) := by
  have rooted := error_of_map_eq_error refused
  by_cases children : g.children = []
  · rw [root_of_nil children] at rooted
    cases rooted
  · rw [root_of_children children] at rooted
    exact ⟨children, exists_occurs_of_node_error conditions (error_of_map_eq_error rooted)⟩

end FilterDialect

/-! ## Other causes -/

/-- A computation is never refused for an unknown operator of a group. -/
def BlamesNoGroup {α : Type} (x : Except CompileError α) : Prop :=
  ∀ name, x ≠ .error (.invalidLogicalOperator name)

namespace BlamesNoGroup

variable {α β : Type} {x : Except CompileError α}

theorem ok (a : α) : BlamesNoGroup (.ok a) :=
  nofun

/-- A cause says nothing of the result that is missing for it. -/
theorem passedOn {cause : CompileError}
    (failed : BlamesNoGroup (.error cause : Except CompileError α)) :
    BlamesNoGroup (.error cause : Except CompileError β) := by
  intro name refused
  cases refused
  exact failed name rfl

/-- Steps that blame no group blame none one after the other. -/
theorem bind {f : α → Except CompileError β} (first : BlamesNoGroup x)
    (second : ∀ a, BlamesNoGroup (f a)) : BlamesNoGroup (x >>= f) := by
  intro name refused
  rcases error_or_error_of_bind refused with refused | ⟨a, -, refused⟩
  · exact first name refused
  · exact second a name refused

theorem map {f : α → β} (first : BlamesNoGroup x) : BlamesNoGroup (x.map f) :=
  fun name refused => first name (error_of_map_eq_error refused)

theorem mapM {f : α → Except CompileError β} (each : ∀ a, BlamesNoGroup (f a)) (as : List α) :
    BlamesNoGroup (as.mapM f) := by
  intro name refused
  obtain ⟨index, ⟨a, -, refused⟩, -⟩ := firstFailure_of_mapM_eq_error refused
  exact each a name refused

/-- An attribute that is looked up in vain is blamed for it, and no group. -/
theorem unknownAttribute (x : Except UnknownAttribute α) :
    BlamesNoGroup (x.mapError .unknownAttribute) := by
  cases x <;> nofun

end BlamesNoGroup

namespace EntityMetadata

variable (m : EntityMetadata)

theorem blamesNoGroup_lookup (name : String) : BlamesNoGroup (m.lookup name) :=
  .unknownAttribute _

theorem blamesNoGroup_projection (columns : List String) : BlamesNoGroup (m.projection columns) :=
  (BlamesNoGroup.mapM (fun _ => .unknownAttribute _) columns).map

theorem blamesNoGroup_ordering (orders : List Order) : BlamesNoGroup (m.ordering orders) :=
  .mapM (fun _ => .bind (.unknownAttribute _) fun _ => .ok _) orders

end EntityMetadata

namespace Sql

variable {m : EntityMetadata} {q : Query} {name : String}

theorem blamesNoGroup_ofValue (a : AttributeMetadata) (v : Value) :
    BlamesNoGroup (Literal.ofValue a v) := by
  unfold Literal.ofValue
  split <;> nofun

/-- What is wrong with a condition is its operator, its attribute or its value. -/
theorem blamesNoGroup_ofCondition (m : EntityMetadata) (c : Condition) :
    BlamesNoGroup (Expression.ofCondition m c) := by
  unfold Expression.ofCondition
  split
  · nofun
  · have found := m.blamesNoGroup_lookup c.attributeName
    split
    · rename_i cause failed
      rw [failed] at found
      exact found.passedOn
    · split
      · exact (blamesNoGroup_ofValue _ _).map
      · nofun

theorem blamesNoGroup_columnsOf (m : EntityMetadata) (columnSet : ColumnSet) :
    BlamesNoGroup (columnsOf m columnSet) := by
  unfold columnsOf
  split
  · exact (m.blamesNoGroup_projection _).map
  · exact .ok none

/-- No statement is made of a query whose filter has an unknown connective. The cause may be another
fault of the query, which is found first. -/
theorem exists_error_of_connective (m : EntityMetadata)
    (connective : q.criteria.HasConnective (.unrecognized name)) :
    ∃ cause, Select.ofQuery m q = .error cause := by
  obtain ⟨cause, refused⟩ : ∃ cause, Expression.ofCriteria m q.criteria = .error cause :=
    FilterDialect.exists_error_of_connective connective
  cases compiled : Select.ofQuery m q with
  | error cause => exact ⟨cause, rfl⟩
  | ok s =>
      obtain ⟨columns, -, compiled⟩ := ok_of_bind_eq_ok compiled
      obtain ⟨order, -, compiled⟩ := ok_of_bind_eq_ok compiled
      obtain ⟨condition, filtered, -⟩ := ok_of_bind_eq_ok compiled
      rw [refused] at filtered
      cases filtered

/-- A query for which a statement is refused because of an unknown operator has it as a connective:
neither the columns nor the order nor a condition is refused for such a cause. -/
theorem hasConnective_of_error
    (refused : Select.ofQuery m q = .error (.invalidLogicalOperator name)) :
    q.criteria.HasConnective (.unrecognized name) := by
  rcases error_or_error_of_bind refused with failed | ⟨columns, -, refused⟩
  · exact absurd failed (blamesNoGroup_columnsOf m q.columnSet name)
  rcases error_or_error_of_bind refused with failed | ⟨order, -, refused⟩
  · exact absurd failed ((m.blamesNoGroup_ordering q.orders).map name)
  rcases error_or_error_of_bind refused with failed | ⟨condition, -, finished⟩
  · exact FilterDialect.hasConnective_of_root_error
      (fun c => blamesNoGroup_ofCondition m c name) failed
  · cases finished

end Sql

namespace OData

variable {m : EntityMetadata} {q : Query} {name : String}

theorem blamesNoGroup_orMismatch (a : AttributeMetadata) (v : Value) (made : Option Literal) :
    BlamesNoGroup (Literal.orMismatch a v made) := by
  cases made <;> nofun

theorem blamesNoGroup_searchText (a : AttributeMetadata) (v : Value) :
    BlamesNoGroup (searchText a v) := by
  unfold searchText
  split <;> nofun

theorem blamesNoGroup_ofPattern (text : String) :
    BlamesNoGroup (StringFunction.ofPattern text) := by
  unfold StringFunction.ofPattern
  split <;> nofun

/-- Whatever form a condition is written in, only its values can be wrong. -/
theorem blamesNoGroup_ofForm (a : AttributeMetadata) (c : Condition) (form : OperatorForm) :
    BlamesNoGroup (Expression.ofForm a c form) := by
  unfold Expression.ofForm
  split
  · exact .bind (blamesNoGroup_orMismatch _ _ _) fun _ => .ok _
  · exact .bind (blamesNoGroup_searchText _ _) fun text =>
      .bind (blamesNoGroup_ofPattern text) fun _ => .ok _
  · exact .bind (blamesNoGroup_searchText _ _) fun _ => .ok _
  · exact .ok _
  · exact .bind (.mapM (fun v => blamesNoGroup_orMismatch _ v _) _) fun _ => .ok _
  · exact .bind (blamesNoGroup_orMismatch _ _ _) fun _ => .ok _
  · exact .ok _
  · exact .bind (blamesNoGroup_orMismatch _ _ _) fun _ =>
      .bind (blamesNoGroup_orMismatch _ _ _) fun _ => .ok _
  · nofun

theorem blamesNoGroup_ofCondition (m : EntityMetadata) (c : Condition) :
    BlamesNoGroup (Expression.ofCondition m c) := by
  unfold Expression.ofCondition
  split
  · nofun
  · have found := m.blamesNoGroup_lookup c.attributeName
    split
    · rename_i cause failed
      rw [failed] at found
      exact found.passedOn
    · split
      · exact blamesNoGroup_ofForm _ _ _
      · nofun

theorem blamesNoGroup_selectOf (m : EntityMetadata) (columnSet : ColumnSet) :
    BlamesNoGroup (selectOf m columnSet) := by
  unfold selectOf
  split
  · exact m.blamesNoGroup_projection _
  · exact .ok []

/-- No options are made of a query whose filter has an unknown connective. -/
theorem exists_error_of_connective (m : EntityMetadata)
    (connective : q.criteria.HasConnective (.unrecognized name)) :
    ∃ cause, Options.ofQuery m q = .error cause := by
  obtain ⟨cause, refused⟩ : ∃ cause, filterOf m q.criteria = .error cause :=
    FilterDialect.exists_error_of_connective connective
  cases compiled : Options.ofQuery m q with
  | error cause => exact ⟨cause, rfl⟩
  | ok options =>
      obtain ⟨select, -, compiled⟩ := ok_of_bind_eq_ok compiled
      obtain ⟨order, -, compiled⟩ := ok_of_bind_eq_ok compiled
      obtain ⟨filter, filtered, -⟩ := ok_of_bind_eq_ok compiled
      rw [refused] at filtered
      cases filtered

/-- A query for which options are refused because of an unknown operator has it as a connective. -/
theorem hasConnective_of_error
    (refused : Options.ofQuery m q = .error (.invalidLogicalOperator name)) :
    q.criteria.HasConnective (.unrecognized name) := by
  rcases error_or_error_of_bind refused with failed | ⟨select, -, refused⟩
  · exact absurd failed (blamesNoGroup_selectOf m q.columnSet name)
  rcases error_or_error_of_bind refused with failed | ⟨order, -, refused⟩
  · exact absurd failed ((m.blamesNoGroup_ordering q.orders).map name)
  rcases error_or_error_of_bind refused with failed | ⟨filter, -, finished⟩
  · exact FilterDialect.hasConnective_of_root_error
      (fun c => blamesNoGroup_ofCondition m c name) failed
  · cases finished

end OData

/-- A query is refused in both dialects if its filter has an operator other than And and Or as a
connective, at whatever depth. Conversely, a query that is refused for such an operator has it as a
connective: no other group is blamed. -/
theorem refused_of_connective (m : EntityMetadata) (q : Query) (name : String) :
    (q.criteria.HasConnective (.unrecognized name) →
      (∃ cause, Sql.Select.ofQuery m q = .error cause) ∧
      ∃ cause, OData.Options.ofQuery m q = .error cause) ∧
    (Sql.Select.ofQuery m q = .error (.invalidLogicalOperator name) ∨
        OData.Options.ofQuery m q = .error (.invalidLogicalOperator name) →
      q.criteria.HasConnective (.unrecognized name)) := by
  refine ⟨fun connective => ⟨?_, ?_⟩, fun refused => ?_⟩
  · exact Sql.exists_error_of_connective m connective
  · exact OData.exists_error_of_connective m connective
  · rcases refused with refused | refused
    · exact Sql.hasConnective_of_error refused
    · exact OData.hasConnective_of_error refused

/-- A query for books with a filter. -/
def Query.filtered (criteria : FilterGroup) : Query where
  entity := "book"
  criteria := criteria

/-- The unknown operator joins two empty groups within two wrappers. -/
def FilterGroup.buried : FilterGroup :=
  .all [.group .or [.group (.unrecognized "Xor") [.group .and [], .group .or []]]]

theorem refused_of_connective_buried :
    FilterGroup.buried.HasConnective (.unrecognized "Xor") ∧
      (∃ cause, Sql.Select.ofQuery .bare (.filtered .buried) = .error cause) ∧
      ∃ cause, OData.Options.ofQuery .bare (.filtered .buried) = .error cause := by
  have joins : FilterNode.Joins [.group .and [], .group .or []] := nofun
  have connective : FilterGroup.buried.HasConnective (.unrecognized "Xor") :=
    ⟨nofun, _, joins, .child (List.mem_singleton_self _) (.child (List.mem_singleton_self _) .here)⟩
  exact ⟨connective, (refused_of_connective .bare (.filtered .buried) "Xor").1 connective⟩

/-- An unknown operator is compiled away on a root without children and on a group whose only child
is a group, though the same name is refused on a nested group without children and on a group of one
condition. -/
theorem unknown_operator_unnoticed :
    ¬ (∀ m q name children,
        FilterNode.Occurs (.group (.unrecognized name) children) q.criteria.node →
        (∃ cause, Sql.Select.ofQuery m q = .error cause) ∧
        ∃ cause, OData.Options.ofQuery m q = .error cause) ∧
    ∀ children ∈ [[], [FilterNode.group .and []]],
      let q : Query := .filtered ⟨.unrecognized "Xor", children⟩
      (∃ s, Sql.Select.ofQuery .bare q = .ok s) ∧ ∃ o, OData.Options.ofQuery .bare q = .ok o := by
  constructor
  · intro law
    obtain ⟨⟨cause, refused⟩, -⟩ :=
      law .bare (.filtered ⟨.unrecognized "Xor", []⟩) "Xor" [] .here
    cases refused
  · intro children shape q
    simp only [List.mem_cons, List.not_mem_nil, or_false] at shape
    rcases shape with rfl | rfl
    · exact ⟨⟨_, rfl⟩, ⟨_, rfl⟩⟩
    · exact ⟨⟨_, rfl⟩, ⟨_, rfl⟩⟩

end EntityGateway
