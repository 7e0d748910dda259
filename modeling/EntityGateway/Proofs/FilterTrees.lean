import EntityGateway.Proofs.Metadata
import EntityGateway.Proofs.Outcome
import EntityGateway.Query.Compile

/-!
# Inductions over filter trees

The filter tree is compiled in one way for all dialects, so what holds of compiled filters is proved
by one of two inductions. `FilterDialect.node_relates` relates every node that compiles with its
expression, once conditions, wrappers and joined groups are dealt with; `node_preserves` is its case
for what holds of the expressions alone.
`FilterDialect.node_sameOutcome` compares two dialects that compile the same tree: they fail for the
same cause or give related expressions.
-/

namespace EntityGateway

namespace FilterNode

/-- What holds of conditions, and of a group whenever it holds of the children, holds of every
node. -/
@[elab_as_elim]
theorem induction {P : FilterNode → Prop} (condition : ∀ c, P (.condition c))
    (group : ∀ operator children, (∀ n ∈ children, P n) → P (.group operator children))
    (n : FilterNode) : P n :=
  @FilterNode.rec P (fun ns => ∀ n ∈ ns, P n) group condition (by simp)
    (fun _ _ first rest => List.forall_mem_cons.mpr ⟨first, rest⟩) n

/-- Every condition of the tree has the property. -/
inductive Every (p : Condition → Prop) : FilterNode → Prop
  | condition {c : Condition} : p c → Every p (.condition c)
  | group {operator : LogicalOperator} {children : List FilterNode} :
    (∀ n ∈ children, Every p n) → Every p (.group operator children)

/-- A group with these children is compiled by its operator, which is so unless they are exactly one
group. No children and a single condition are joined by it as well. -/
def Joins (children : List FilterNode) : Prop :=
  ∀ operator grandchildren, children ≠ [.group operator grandchildren]

/-- A group is a wrapper of its only child, or joins its children. -/
theorem wraps_or_joins (children : List FilterNode) :
    (∃ operator grandchildren, children = [.group operator grandchildren]) ∨ Joins children := by
  by_cases wraps : ∃ operator grandchildren, children = [.group operator grandchildren]
  · exact .inl wraps
  · exact .inr fun operator grandchildren single => wraps ⟨operator, grandchildren, single⟩

end FilterNode

namespace FilterDialect

variable {E F : Type} {dialect : FilterDialect E} {left : FilterDialect E}
  {right : FilterDialect F}

theorem nodes_eq_mapM (ns : List FilterNode) : dialect.nodes ns = ns.mapM dialect.node := by
  induction ns with
  | nil => rfl
  | cons n ns ih =>
      rw [nodes, List.mapM_cons, ← ih]
      cases dialect.node n with
      | error cause => rfl
      | ok e => cases dialect.nodes ns <;> rfl

theorem node_wrapper (dialect : FilterDialect E) (outer operator : LogicalOperator)
    (children : List FilterNode) :
    dialect.node (.group outer [.group operator children]) =
      dialect.node (.group operator children) := by
  rw [node]

theorem node_and {children : List FilterNode} (joins : FilterNode.Joins children) :
    dialect.node (.group .and children) = (children.mapM dialect.node).map dialect.all := by
  rw [node.eq_3 _ _ joins, nodes_eq_mapM]

theorem node_or {children : List FilterNode} (joins : FilterNode.Joins children) :
    dialect.node (.group .or children) = (children.mapM dialect.node).map dialect.any := by
  rw [node.eq_4 _ _ joins, nodes_eq_mapM]

theorem node_unrecognized {children : List FilterNode} (joins : FilterNode.Joins children)
    (name : String) :
    dialect.node (.group (.unrecognized name) children) =
      .error (.invalidLogicalOperator name) := by
  rw [node.eq_5 _ _ _ joins]

/-- What holds of conditions, passes from a group to its wrapper, and from the children of a joined
group to the group, holds of every node that compiles. -/
theorem node_relates {R : FilterNode → E → Prop}
    (condition : ∀ {c e}, dialect.condition c = .ok e → R (.condition c) e)
    (wrapper : ∀ {outer operator children e},
      R (.group operator children) e → R (.group outer [.group operator children]) e)
    (all : ∀ {children es}, FilterNode.Joins children → List.Forall₂ R children es →
      R (.group .and children) (dialect.all es))
    (any : ∀ {children es}, FilterNode.Joins children → List.Forall₂ R children es →
      R (.group .or children) (dialect.any es))
    {n : FilterNode} {e : E} (compiled : dialect.node n = .ok e) : R n e := by
  induction n using FilterNode.induction generalizing e with
  | condition c => exact condition (by rwa [node] at compiled)
  | group operator children ih =>
      obtain ⟨inner, grandchildren, rfl⟩ | joins := FilterNode.wraps_or_joins children
      · -- the wrapper's own operator is never looked at, so it need not be a known one
        rw [node_wrapper] at compiled
        exact wrapper (ih _ (by simp) compiled)
      · have related {es : List E} (computed : children.mapM dialect.node = .ok es) :
            List.Forall₂ R children es := by
          obtain ⟨length, zipped⟩ := List.forall₂_iff_zip.mp (forall₂_of_mapM_eq_ok computed)
          refine List.forall₂_iff_zip.mpr ⟨length, fun member => ?_⟩
          exact ih _ (List.of_mem_zip member).1 (zipped member)
        cases operator with
        | and =>
            rw [node_and joins] at compiled
            obtain ⟨es, computed, rfl⟩ := ok_of_map_eq_ok compiled
            exact all joins (related computed)
        | or =>
            rw [node_or joins] at compiled
            obtain ⟨es, computed, rfl⟩ := ok_of_map_eq_ok compiled
            exact any joins (related computed)
        | unrecognized name =>
            rw [node_unrecognized joins] at compiled
            cases compiled

/-- What holds of compiled conditions, and of joined expressions whenever it holds of the items,
holds of every expression that a node compiles to. -/
theorem node_preserves {P : E → Prop}
    (condition : ∀ {c e}, dialect.condition c = .ok e → P e)
    (all : ∀ {es}, (∀ e ∈ es, P e) → P (dialect.all es))
    (any : ∀ {es}, (∀ e ∈ es, P e) → P (dialect.any es))
    {n : FilterNode} {e : E} (compiled : dialect.node n = .ok e) : P e :=
  node_relates condition id (fun _ related => all (forall_mem_of_forall₂ related))
    (fun _ related => any (forall_mem_of_forall₂ related)) compiled

/-- Two dialects that agree on some conditions, and join related expressions to related ones, agree
on every tree of such conditions. -/
theorem node_sameOutcome {R : E → F → Prop} {p : Condition → Prop}
    (condition : ∀ {c}, p c → SameOutcome R (left.condition c) (right.condition c))
    (all : ∀ {es fs}, List.Forall₂ R es fs → R (left.all es) (right.all fs))
    (any : ∀ {es fs}, List.Forall₂ R es fs → R (left.any es) (right.any fs))
    {n : FilterNode} (every : n.Every p) : SameOutcome R (left.node n) (right.node n) := by
  induction n using FilterNode.induction with
  | condition c =>
      cases every with
      | condition holds => simpa only [node] using condition holds
  | group operator children ih =>
      cases every with
      | group every =>
          obtain ⟨inner, grandchildren, rfl⟩ | joins := FilterNode.wraps_or_joins children
          · rw [node_wrapper, node_wrapper]
            exact ih _ (by simp) (every _ (by simp))
          · have same : SameOutcome (List.Forall₂ R) (children.mapM left.node)
                (children.mapM right.node) :=
              .mapM fun n member => ih n member (every n member)
            cases operator with
            | and =>
                rw [node_and joins, node_and joins]
                exact same.map all
            | or =>
                rw [node_or joins, node_or joins]
                exact same.map any
            | unrecognized name =>
                rw [node_unrecognized joins, node_unrecognized joins]
                exact .error _

end FilterDialect

end EntityGateway
