import EntityGateway.Query.Operator
import EntityGateway.Value

/-!
# Queries

A query asks for records of one entity: which columns, under which conditions, in which order, and
which part of the answer. It says nothing about the store that holds the records; names in it are
logical names. Conditions form a tree of groups, whose root is always a group, possibly an empty
one.
-/

namespace EntityGateway

/-- Which attributes the answer has. -/
structure ColumnSet where
  allColumns : Bool
  columns : List String
  deriving DecidableEq

namespace ColumnSet

/-- Every attribute. -/
def all : ColumnSet := ⟨true, []⟩

/-- Some attributes. -/
def only (columns : List String) : ColumnSet := ⟨false, columns⟩

/-- The answer is narrowed to some attributes. A set without columns asks for all of them. -/
def isRestricted (c : ColumnSet) : Bool :=
  !c.allColumns && !c.columns.isEmpty

end ColumnSet

/-- How the children of a group are joined. A name that means neither is kept, so that it can be
rejected when the query is compiled. -/
inductive LogicalOperator where
  | and
  | or
  | unrecognized (name : String)
  deriving DecidableEq

namespace LogicalOperator

/-- The operator of a name. Two names are written in either of two ways. -/
def ofName (name : String) : LogicalOperator :=
  if name = "And" ∨ name = "and" then and
  else if name = "Or" ∨ name = "or" then or
  else unrecognized name

/-- The name of an operator. -/
def name : LogicalOperator → String
  | and => "And"
  | or => "Or"
  | unrecognized name => name

end LogicalOperator

/-- A comparison of one attribute with some values. -/
structure Condition where
  attributeName : String
  operator : ConditionOperator
  values : List Value

/-- A node of the filter tree: a condition, or a group of nodes with the operator that joins them.
-/
inductive FilterNode where
  | group (operator : LogicalOperator) (children : List FilterNode)
  | condition (condition : Condition)

/-- A group of the filter tree. -/
structure FilterGroup where
  operator : LogicalOperator
  children : List FilterNode

namespace FilterGroup

/-- All of some nodes. -/
def all (children : List FilterNode) : FilterGroup := ⟨.and, children⟩

/-- Any of some nodes. -/
def any (children : List FilterNode) : FilterGroup := ⟨.or, children⟩

/-- The group as a node of another. -/
def node (g : FilterGroup) : FilterNode := .group g.operator g.children

/-- The group has no children. -/
def isEmpty (g : FilterGroup) : Bool := g.children.isEmpty

/-- The conditions among the children. -/
def conditions (g : FilterGroup) : List Condition :=
  g.children.filterMap fun
    | .condition c => some c
    | .group .. => none

/-- The groups among the children. -/
def groups (g : FilterGroup) : List FilterGroup :=
  g.children.filterMap fun
    | .group operator children => some ⟨operator, children⟩
    | .condition _ => none

/-- The only child, if it is a group. Such a group stands for its child. -/
def singleNestedGroup? (g : FilterGroup) : Option FilterGroup :=
  match g.children with
  | [.group operator children] => some ⟨operator, children⟩
  | _ => none

end FilterGroup

/-- One attribute that the answer is ordered by. -/
structure Order where
  attributeName : String
  descending : Bool
  deriving DecidableEq

/-- Which part of the answer is asked for. The cookie was given out by the store with the part
before. -/
structure Paging where
  pageNumber : UInt32
  pageSize : UInt32
  cookie : Option String
  deriving DecidableEq

/-- A request for records of an entity. -/
structure Query where
  entity : String
  columnSet : ColumnSet := .all
  criteria : FilterGroup := .all []
  orders : List Order := []
  paging : Option Paging := none
  /-- The greatest number of records to answer. -/
  top : Option UInt32 := none

end EntityGateway
