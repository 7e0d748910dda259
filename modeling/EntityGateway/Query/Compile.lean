import EntityGateway.Query.CompileError

/-!
# Compiling queries

What compiling has in common for all dialects. Names are looked up from left to right and the first
unknown one is reported. The filter tree keeps its shape, except that a group whose only child is a
group stands for that child, whatever its own operator is.
-/

namespace EntityGateway

/-- Looks up the attribute of a query's name. -/
def EntityMetadata.lookup (m : EntityMetadata) (logicalName : String) :
    Except CompileError AttributeMetadata :=
  (m.attributeNamed logicalName).mapError .unknownAttribute

/-- The external name of a query's name. -/
def EntityMetadata.externalFor (m : EntityMetadata) (logicalName : String) :
    Except CompileError String :=
  (m.toExternal logicalName).mapError .unknownAttribute

/-- The external names of some columns, each once, where it first occurs. -/
def EntityMetadata.projection (m : EntityMetadata) (columns : List String) :
    Except CompileError (List String) :=
  (columns.mapM m.externalFor).map List.eraseDups

/-- The external names that an answer is ordered by. -/
def EntityMetadata.ordering (m : EntityMetadata) (orders : List Order) :
    Except CompileError (List (String × Bool)) :=
  orders.mapM fun order => do
    let name ← m.externalFor order.attributeName
    pure (name, order.descending)

/-- How a dialect writes filters. -/
structure FilterDialect (E : Type) where
  /-- All of some expressions. -/
  all : List E → E
  /-- Any of some expressions. -/
  any : List E → E
  /-- A condition. -/
  condition : Condition → Except CompileError E

namespace FilterDialect

variable {E : Type}

mutual

/-- Compiles a node of the filter tree. The operator of a group is checked before its children. -/
def node (dialect : FilterDialect E) : FilterNode → Except CompileError E
  | .condition c => dialect.condition c
  | .group _ [.group operator children] => node dialect (.group operator children)
  | .group operator children =>
    match operator with
    | .and => (nodes dialect children).map dialect.all
    | .or => (nodes dialect children).map dialect.any
    | .unrecognized name => .error (.invalidLogicalOperator name)

/-- Compiles nodes from left to right. -/
def nodes (dialect : FilterDialect E) : List FilterNode → Except CompileError (List E)
  | [] => .ok []
  | first :: rest =>
    match node dialect first with
    | .error e => .error e
    | .ok e =>
      match nodes dialect rest with
      | .error e => .error e
      | .ok es => .ok (e :: es)

end

/-- Compiles the root of the filter tree. A root without children is no filter at all. -/
def root (dialect : FilterDialect E) (g : FilterGroup) : Except CompileError (Option E) :=
  if g.children.isEmpty then .ok none else (dialect.node g.node).map some

end FilterDialect

end EntityGateway
