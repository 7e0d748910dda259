import EntityGateway.Query.Compile
import EntityGateway.Sql.Literal
import EntityGateway.Sql.Printer

/-!
# Compiling queries to selections

`Select.ofQuery` makes a statement of a query. When a query asks for some columns only, the column
that identifies a record is answered as well, so that every record can be addressed. The store
compares by six operators; a query with any other is rejected.
-/

namespace EntityGateway.Sql

/-- The comparison of an operator. -/
def Comparison.ofOperator? : ConditionOperator → Option Comparison
  | .equal => some .equal
  | .notEqual => some .notEqual
  | .greaterThan => some .greater
  | .lessThan => some .less
  | .greaterEqual => some .greaterOrEqual
  | .lessEqual => some .lessOrEqual
  | _ => none

/-- Compiles a condition: the operator is looked at first, then the attribute, then the value. -/
def Expression.ofCondition (m : EntityMetadata) (c : Condition) :
    Except CompileError Expression :=
  match Comparison.ofOperator? c.operator with
  | none => .error (.unsupportedOperator c.operator)
  | some comparison =>
    match m.lookup c.attributeName with
    | .error e => .error e
    | .ok a =>
      match c.values with
      | [value] =>
        (Literal.ofValue a value).map fun literal =>
          .compare (.column ⟨defaultAlias, a.externalName⟩) comparison (.literal literal)
      | values => .error (.unexpectedValueCount c.operator (.exactly 1) values.length)

/-- How filters are written. -/
def filterDialect (m : EntityMetadata) : FilterDialect Expression where
  all := .all
  any := .any
  condition := Expression.ofCondition m

/-- Compiles the filter tree. A tree that demands nothing is no condition. -/
def Expression.ofCriteria (m : EntityMetadata) (criteria : FilterGroup) :
    Except CompileError Expression :=
  ((filterDialect m).root criteria).map fun
    | none => .always
    | some (.all []) => .always
    | some e => e

/-- The columns to answer. -/
def columnsOf (m : EntityMetadata) (columnSet : ColumnSet) :
    Except CompileError (Option (List Column)) :=
  if columnSet.isRestricted then
    (m.projection (columnSet.columns ++ [m.primaryIdAttribute])).map fun names =>
      some (names.map fun name => ⟨defaultAlias, name⟩)
  else .ok none

/-- The order of the answer. -/
def orderOf (m : EntityMetadata) (orders : List Order) : Except CompileError (List Ordering) :=
  (m.ordering orders).map fun names =>
    names.map fun name => ⟨⟨defaultAlias, name.1⟩, name.2⟩

/-- Compiles a query: the columns first, then the order, then the filter. -/
def Select.ofQuery (m : EntityMetadata) (q : Query) : Except CompileError Select := do
  let columns ← columnsOf m q.columnSet
  let order ← orderOf m q.orders
  let condition ← Expression.ofCriteria m q.criteria
  pure { top := q.top, columns, collection := m.externalCollectionName, condition, order }

end EntityGateway.Sql
