import EntityGateway.Query.Basic

/-!
# Queries as JSON

The JSON form of queries and their parts. Fields that have a usual value may be left out when a
query is written down; encoding writes every field.
-/

namespace EntityGateway

/-! ## Columns, orders and paging -/

/-- The JSON form of a column set. -/
def ColumnSet.toJson (c : ColumnSet) : Json :=
  .object [
    ("allColumns", .boolean c.allColumns),
    ("columns", .array (c.columns.map .string))]

/-- Decodes a column set. -/
def ColumnSet.decode : Decoder ColumnSet :=
  Decode.structure ["allColumns", "columns"] fun fields =>
    ColumnSet.mk <$> fields.required "allColumns" Decode.boolean
      <*> fields.withDefault "columns" (Decode.list Decode.text) []

/-- The JSON form of an order. -/
def Order.toJson (o : Order) : Json :=
  .object [
    ("attributeName", .string o.attributeName),
    ("descending", .boolean o.descending)]

/-- Decodes an order. -/
def Order.decode : Decoder Order :=
  Decode.structure ["attributeName", "descending"] fun fields =>
    Order.mk <$> fields.required "attributeName" Decode.text
      <*> fields.withDefault "descending" Decode.boolean false

/-- The JSON form of paging. -/
def Paging.toJson (p : Paging) : Json :=
  .object [
    ("pageNumber", .integer p.pageNumber.toNat),
    ("pageSize", .integer p.pageSize.toNat),
    ("cookie", .ofText? p.cookie)]

/-- Decodes paging. -/
def Paging.decode : Decoder Paging :=
  Decode.structure ["pageNumber", "pageSize", "cookie"] fun fields =>
    Paging.mk <$> fields.withDefault "pageNumber" Decode.uint32 1
      <*> fields.withDefault "pageSize" Decode.uint32 0
      <*> fields.withDefault "cookie" (Decode.nullable Decode.text) none

/-! ## The filter tree -/

/-- The JSON form of a logical operator. -/
def LogicalOperator.toJson (o : LogicalOperator) : Json :=
  .string o.name

/-- Decodes a logical operator. Any name will do. -/
def LogicalOperator.decode : Decoder LogicalOperator := fun d =>
  LogicalOperator.ofName <$> Decode.text d

/-- The JSON form of a condition operator. -/
def ConditionOperator.toJson (o : ConditionOperator) : Json :=
  .string o.name

/-- Decodes a condition operator. -/
def ConditionOperator.decode : Decoder ConditionOperator :=
  Decode.named ConditionOperator.ofName?

/-- The JSON form of a condition. -/
def Condition.toJson (c : Condition) : Json :=
  .object [
    ("attributeName", .string c.attributeName),
    ("operator", c.operator.toJson),
    ("values", .array (c.values.map Value.toJson))]

/-- Decodes a condition. -/
def Condition.decode : Decoder Condition :=
  Decode.structure ["attributeName", "operator", "values"] fun fields =>
    Condition.mk <$> fields.required "attributeName" Decode.text
      <*> fields.required "operator" ConditionOperator.decode
      <*> fields.withDefault "values" (Decode.list Value.decode) []

mutual

/-- The JSON form of a node. -/
def FilterNode.toJson : FilterNode → Json
  | .group operator children =>
    .object [("group", .object [
      ("filterOperator", operator.toJson),
      ("children", .array (FilterNode.toJsons children))])]
  | .condition c => .object [("condition", c.toJson)]

/-- The JSON forms of some nodes. -/
def FilterNode.toJsons : List FilterNode → List Json
  | [] => []
  | node :: rest => node.toJson :: FilterNode.toJsons rest

end

/-- The JSON form of a group. -/
def FilterGroup.toJson (g : FilterGroup) : Json :=
  .object [
    ("filterOperator", g.operator.toJson),
    ("children", .array (FilterNode.toJsons g.children))]

/-- The faults of a choice between groups and conditions that is not written as a member. -/
def FilterNode.notMember : Decoder FilterNode :=
  Decode.choice fun
    | .name place s =>
      if s = "group" ∨ s = "condition" then .mismatchedWhole else .mismatched place
    | .member place .. => .mismatched place

/-- The fields of a group. -/
def FilterGroup.fieldNames : List String :=
  ["filterOperator", "children"]

/-- A group from its fields: its operator, and what was found of its children. -/
def FilterGroup.ofFields (fields : Fields) (children : Found (Option (List FilterNode))) :
    Decoded FilterGroup :=
  fields.complete <|
    (fun operator children => ⟨operator, children.getD []⟩)
      <$> fields.required "filterOperator" LogicalOperator.decode <*> children

mutual

/-- Decodes a node. -/
def FilterNode.decode : Document → Decoded FilterNode
  | .object place (.cons named (.ok name) colon value next rest) =>
    if name = "group" then
      Decode.alone next rest (FilterGroup.node <$> FilterGroup.decode value)
    else if name = "condition" then
      Decode.alone next rest (FilterNode.condition <$> Condition.decode value)
    else FilterNode.notMember (.object place (.cons named (.ok name) colon value next rest))
  | d => FilterNode.notMember d

/-- Decodes a group. -/
def FilterGroup.decode : Document → Decoded FilterGroup
  | .object _ members =>
    FilterGroup.ofFields (.named FilterGroup.fieldNames members) (FilterNode.inMembers members)
  | .array _ (.cons operator (.cons children rest)) =>
    FilterGroup.ofFields (.listed FilterGroup.fieldNames (.cons operator (.cons children rest)))
      (some <$> Found.inPart children.place
        ((FilterNode.decodeAll children).placedAt rest.place))
  | .array _ items => FilterGroup.ofFields (.listed FilterGroup.fieldNames items) (.value none)
  | d => Decode.mismatch d

/-- Decodes the member that holds the children of a group. There must be no second one. -/
def FilterNode.inMembers : Members → Found (Option (List FilterNode))
  | .cons place name _ value next rest =>
    if name.is "children" then
      (fun children _ => some children)
        <$> Found.inPart place ((FilterNode.decodeAll value).placedAt next)
        <*> rest.unrepeated "children"
    else FilterNode.inMembers rest
  | _ => .value none

/-- Decodes an array of nodes. -/
def FilterNode.decodeAll : Document → Decoded (List FilterNode)
  | .array _ items => FilterNode.decodeItems items
  | d => Decode.mismatch d

/-- Decodes every item as a node. -/
def FilterNode.decodeItems : Items → Decoded (List FilterNode)
  | .closed _ => .value []
  | .broken place | .tooDeep place _ => .malformed place
  | .cons item rest => do
    let first ← (FilterNode.decode item).placedAt rest.place
    let others ← FilterNode.decodeItems rest
    return first :: others

end

/-! ## Queries -/

/-- The JSON form of a query. -/
def Query.toJson (q : Query) : Json :=
  .object [
    ("entityName", .string q.entity),
    ("columnSet", q.columnSet.toJson),
    ("criteria", q.criteria.toJson),
    ("orders", .array (q.orders.map Order.toJson)),
    ("paging", match q.paging with
      | some p => p.toJson
      | none => .null),
    ("topCount", match q.top with
      | some n => .integer n.toNat
      | none => .null)]

/-- Decodes a query. -/
def Query.decode : Decoder Query :=
  Decode.structure ["entityName", "columnSet", "criteria", "orders", "paging",
      "topCount"] fun fields =>
    Query.mk <$> fields.required "entityName" Decode.text
      <*> fields.withDefault "columnSet" ColumnSet.decode .all
      <*> fields.withDefault "criteria" FilterGroup.decode (.all [])
      <*> fields.withDefault "orders" (Decode.list Order.decode) []
      <*> fields.withDefault "paging" (Decode.nullable Paging.decode) none
      <*> fields.withDefault "topCount" (Decode.nullable Decode.uint32) none

end EntityGateway
