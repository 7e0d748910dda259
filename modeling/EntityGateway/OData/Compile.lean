import EntityGateway.OData.Literal
import EntityGateway.OData.Operator
import EntityGateway.OData.Printer
import EntityGateway.Query.Compile

/-!
# Compiling queries to options

`Options.ofQuery` makes the options of a request of a query. The service answers the identifier of a
record in any case, so it is not asked for on top of the columns of the query.
-/

namespace EntityGateway.OData

/-- The search that markers at the ends of a pattern decide on. The markers stay in the text. -/
def StringFunction.ofPattern (text : String) : Except CompileError StringFunction :=
  match text.toList.head? == some '%', text.toList.getLast? == some '%' with
  | true, true => .ok .contains
  | true, false => .ok .endsWith
  | false, true => .ok .startsWith
  | false, false => .error (.unsupportedPattern text)

namespace Expression

/-- An expression or its negation. -/
def negatedIf (negated : Bool) (e : Expression) : Expression :=
  if negated then .not e else e

/-- Compiles a condition whose values have been counted. -/
def ofForm (a : AttributeMetadata) (c : Condition) (form : OperatorForm) :
    Except CompileError Expression :=
  match form.form, c.values with
  | .comparison comparison, [v] => do
    let literal ← Literal.ofComparison a v
    pure (.compare a.externalName comparison literal)
  | .pattern negated, [v] => do
    let text ← searchText a v
    let function ← StringFunction.ofPattern text
    pure (negatedIf negated (.search function a.externalName (.string text)))
  | .search function negated, [v] => do
    let text ← searchText a v
    pure (negatedIf negated (.search function a.externalName (.string text)))
  | .nullCheck negated, _ =>
    pure (.compare a.externalName (if negated then .notEqual else .equal) .null)
  | .callList, values => do
    let items ← values.mapM (Literal.ofItem a)
    pure (.call c.operator.name a.externalName (.list items))
  | .callSingle, [v] => do
    let literal ← Literal.ofArgument a v
    pure (.call c.operator.name a.externalName (.single literal))
  | .callNone, _ => pure (.call c.operator.name a.externalName .none)
  | .callPair, [v, w] => do
    let first ← Literal.ofArgument a v
    let second ← Literal.ofArgument a w
    pure (.call c.operator.name a.externalName (.pair first second))
  | _, values => .error (.unexpectedValueCount c.operator form.arity values.length)

/-- Compiles a condition: the operator is looked at first, then the attribute, then the number of
values, then the values. -/
def ofCondition (m : EntityMetadata) (c : Condition) : Except CompileError Expression :=
  match OperatorForm.of? c.operator with
  | none => .error (.operatorNotImplemented c.operator)
  | some form =>
    match m.lookup c.attributeName with
    | .error e => .error e
    | .ok a =>
      if form.arity.accepts c.values.length then ofForm a c form
      else .error (.unexpectedValueCount c.operator form.arity c.values.length)

end Expression

/-- How filters are written. -/
def filterDialect (m : EntityMetadata) : FilterDialect Expression where
  all := .all
  any := .any
  condition := Expression.ofCondition m

/-- Compiles the filter tree. A tree that demands nothing is no filter. -/
def filterOf (m : EntityMetadata) (criteria : FilterGroup) :
    Except CompileError (Option Expression) :=
  ((filterDialect m).root criteria).map fun
    | some (.all []) => none
    | filter => filter

/-- The properties to answer. -/
def selectOf (m : EntityMetadata) (columnSet : ColumnSet) : Except CompileError (List String) :=
  if columnSet.isRestricted then m.projection columnSet.columns else .ok []

/-- The continuation, if there is a cookie that is not empty. -/
def skipTokenOf (paging : Option Paging) : Option SkipToken := do
  let p ← paging
  let cookie ← p.cookie
  if cookie.isEmpty then none else some ⟨p.pageNumber, cookie⟩

/-- The order of the answer. -/
def orderOf (m : EntityMetadata) (orders : List Order) : Except CompileError (List Ordering) :=
  (m.ordering orders).map fun names => names.map fun name => ⟨name.1, name.2⟩

/-- Compiles a query: the columns first, then the order, then the filter. -/
def Options.ofQuery (m : EntityMetadata) (q : Query) : Except CompileError Options := do
  let select ← selectOf m q.columnSet
  let order ← orderOf m q.orders
  let filter ← filterOf m q.criteria
  pure { select, top := q.top, skipToken := skipTokenOf q.paging, order, filter }

end EntityGateway.OData
