import EntityGateway.Proofs.FilterTrees
import EntityGateway.Proofs.Json.Structures
import EntityGateway.Proofs.Number.ReadBack
import EntityGateway.Query.Codec

/-!
# Queries that are read again

A query that was read from JSON is written in a form that is read as the same query, whatever was
left out and however names were spelled before. The one thing that JSON does not keep is the type of
integers beyond sixty-three bits: they are carried as decimals, are written as strings, and stay
strings from then on (`Value.reread`). `decode_toJson_of_decoded` is the law for whole queries.

Not every query is the same after it was written: an operator may have a name that means another
one, and a value may be an identifier or an instant. `FilterNode.IsRead` names what is true of
filter trees that were read, so that reading them again gives the same tree.
-/

namespace EntityGateway

/-! ## Values -/

namespace Value

/-- What the JSON form of a value that was read is read as. -/
def reread : Value → Value
  | decimal amount => string amount.text
  | v => v

/-- What is true of values that were read. -/
structure IsRead (v : Value) : Prop where
  /-- The JSON form of the value is read as the value, up to its type. -/
  again : decode v.toJson.toDocument = .value v.reread
  /-- Decimals are the integers that sixty-three bits are too few for. -/
  beyond : ∀ d, v = .decimal d → ∃ n : Nat, Nat.pow 2 63 ≤ n ∧ n < Nat.pow 2 64 ∧
    d.text = String.ofList (Nat.toDigits 10 n)

/-- Integers of JSON are read again as they are, up to the type of those that are beyond sixty-three
bits. -/
theorem isRead_ofInteger {n : Int} (least : -(Nat.pow 2 63 : Int) ≤ n) (bound : n < Nat.pow 2 64) :
    (ofInteger n).IsRead := by
  rcases ofInteger_cases least bound with ⟨i, rfl, given⟩ | ⟨u, rfl, large, given⟩
  · rw [given]
    exact ⟨congrArg Decoded.value given, nofun⟩
  · rw [given]
    refine ⟨rfl, fun d decimal => ?_⟩
    cases decimal
    exact ⟨u.toNat, large, u.toNat_lt, Decimal.text_ofUInt64 u⟩

/-- A value that was decoded is decoded again from its JSON form. -/
theorem isRead_of_decode {d : Document} {v : Value} (proper : d.isProper = true)
    (decoded : decode d = .value v) : v.IsRead := by
  obtain ⟨j, read, rfl⟩ := Decoded.of_map_eq_value decoded
  have again := Decode.json_toDocument_of_json d read
  cases d with
  | null _ | boolean _ _ => cases read; exact ⟨rfl, fun _ decimal => by cases decimal⟩
  | integer _ n =>
      cases read
      obtain ⟨least, bound⟩ := Bool.and_eq_true_iff.mp proper
      exact isRead_ofInteger (of_decide_eq_true least) (of_decide_eq_true bound)
  | double _ d =>
      cases read
      have finite : d.isFinite = true := proper
      refine ⟨?_, fun _ decimal => by cases decimal⟩
      rw [ofJson, toJson, if_pos finite]
      rfl
  | string _ written =>
      cases written with
      | error flaw => cases read
      | ok s => cases read; exact ⟨rfl, fun _ decimal => by cases decimal⟩
  | array _ items =>
      obtain ⟨js, -, rfl⟩ := Decoded.of_map_eq_value read
      exact ⟨congrArg (ofJson <$> ·) again, fun _ decimal => by cases decimal⟩
  | object _ members =>
      obtain ⟨entries, -, rfl⟩ := Decoded.of_map_eq_value read
      exact ⟨congrArg (ofJson <$> ·) again, fun _ decimal => by cases decimal⟩
  | broken _ flaw => cases read

end Value

/-! ## Names -/

/-- The name that an operator is written under gives the operator again, however it was first
spelled. -/
theorem LogicalOperator.ofName_name_ofName (name : String) :
    ofName (ofName name).name = ofName name := by
  by_cases isAnd : name = "And" ∨ name = "and"
  · have known : ofName name = .and := if_pos isAnd
    rw [known]
    rfl
  · by_cases isOr : name = "Or" ∨ name = "or"
    · have known : ofName name = .or := (if_neg isAnd).trans (if_pos isOr)
      rw [known]
      rfl
    · have kept : ofName name = .unrecognized name := (if_neg isAnd).trans (if_neg isOr)
      rw [kept]
      exact kept

/-- No two operators have the same name. -/
theorem ConditionOperator.ofName?_name (operator : ConditionOperator) :
    ofName? operator.name = some operator := by
  have each : ∀ operator ∈ all, ofName? operator.name = some operator := by decide +kernel
  exact each operator (mem_all operator)

/-- Each operator of conditions is read from its own name. -/
theorem ConditionOperator.decode_toJson (operator : ConditionOperator) :
    decode operator.toJson.toDocument = .value operator :=
  Decode.named_string operator.ofName?_name

/-! ## Filter trees -/

mutual

/-- The filter tree with other values in its conditions. -/
def FilterNode.mapValues (f : Value → Value) : FilterNode → FilterNode
  | .group operator children => .group operator (FilterNode.mapAllValues f children)
  | .condition c => .condition { c with values := c.values.map f }

/-- The nodes with other values in their conditions. -/
def FilterNode.mapAllValues (f : Value → Value) : List FilterNode → List FilterNode
  | [] => []
  | node :: rest => node.mapValues f :: FilterNode.mapAllValues f rest

end

/-- What is true of filter trees that were read. -/
inductive FilterNode.IsRead : FilterNode → Prop
  | condition {c : Condition} : (∀ v ∈ c.values, v.IsRead) → IsRead (.condition c)
  | group {operator : LogicalOperator} {children : List FilterNode} :
    LogicalOperator.ofName operator.name = operator → (∀ n ∈ children, IsRead n) →
    IsRead (.group operator children)

namespace FilterNode

end FilterNode

/-! ## Filter trees that were read -/

/-- The values of a decoded condition are values that were read. -/
theorem Condition.isRead_of_decode {d : Document} {c : Condition} (proper : d.isProper = true)
    (decoded : decode d = .value c) : ∀ v ∈ c.values, v.IsRead := by
  obtain ⟨fields, fieldsProper, found⟩ := Decode.of_structure proper decoded
  obtain ⟨ofValues, values, others, foundValues, rfl⟩ := Found.of_seq_eq_value found
  obtain ⟨ofOperator, operator, named, -, rfl⟩ := Found.of_seq_eq_value others
  obtain ⟨name, -, rfl⟩ := Found.of_map_eq_value named
  rcases Fields.of_withDefault fieldsProper foundValues with rfl | ⟨list, listProper, read⟩
  · exact List.forall_mem_nil _
  · intro v member
    obtain ⟨part, partProper, readValue⟩ := Decode.of_list listProper read v member
    exact Value.isRead_of_decode partProper readValue

/-- A decoded operator is the one that its name gives. -/
theorem LogicalOperator.ofName_of_decode {d : Document} {operator : LogicalOperator}
    (decoded : decode d = .value operator) : ofName operator.name = operator := by
  obtain ⟨name, -, rfl⟩ := Decoded.of_map_eq_value decoded
  exact ofName_name_ofName name

theorem FilterNode.notMember_ne_value (d : Document) {n : FilterNode} :
    notMember d ≠ Decoded.value n := by
  intro decoded
  obtain ⟨chosen, fault⟩ := Decode.of_choice decoded
  cases chosen with
  | name place s => dsimp only at fault; split at fault <;> cases fault
  | member place s value => cases fault

/-- A group was read if its operator and its children were. -/
theorem FilterGroup.isRead_of_ofFields (fields : Fields)
    {found : Found (Option (List FilterNode))} {g : FilterGroup} (proper : fields.isProper = true)
    (decoded : ofFields fields found = .value g)
    (children : ∀ {nodes}, found = .value nodes → ∀ n ∈ nodes.getD [], n.IsRead) :
    g.node.IsRead := by
  obtain ⟨ofChildren, nodes, named, foundNodes, rfl⟩ :=
    Found.of_seq_eq_value (Fields.of_complete_eq_value decoded)
  obtain ⟨operator, foundOperator, rfl⟩ := Found.of_map_eq_value named
  obtain ⟨d, -, read⟩ := Fields.of_required proper foundOperator
  exact .group (LogicalOperator.ofName_of_decode read) (children foundNodes)

/-- A group whose children are left out. -/
theorem FilterGroup.isRead_of_listed {items : Items} {g : FilterGroup}
    (proper : items.isProper = true)
    (decoded : ofFields (.listed fieldNames items) (.value none) = .value g) : g.node.IsRead :=
  isRead_of_ofFields (.listed fieldNames items) proper decoded fun found => by
    cases found
    exact List.forall_mem_nil _

mutual

/-- Decoded nodes are nodes that were read. The induction follows the decoder through members and
items. -/
theorem FilterNode.isRead_of_decode : (d : Document) → {n : FilterNode} → d.isProper = true →
    FilterNode.decode d = .value n → n.IsRead
  | .object place (.cons named (.ok name) colon value next rest), n, proper, decoded => by
      have valueProper : value.isProper = true := (Bool.and_eq_true_iff.mp proper).1
      rw [FilterNode.decode] at decoded
      split at decoded
      · obtain ⟨g, read, rfl⟩ := Decoded.of_map_eq_value (Decode.of_alone decoded)
        exact FilterGroup.isRead_of_decode value valueProper read
      · split at decoded
        · obtain ⟨c, read, rfl⟩ := Decoded.of_map_eq_value (Decode.of_alone decoded)
          exact .condition (Condition.isRead_of_decode valueProper read)
        · exact absurd decoded (FilterNode.notMember_ne_value _)
  | .object _ (.cons _ (.error _) _ _ _ _), _, _, decoded | .object _ (.closed _), _, _, decoded
  | .object _ (.broken _), _, _, decoded | .object _ (.tooDeep _ _), _, _, decoded
  | .null _, _, _, decoded | .boolean _ _, _, _, decoded | .integer _ _, _, _, decoded
  | .double _ _, _, _, decoded | .string _ _, _, _, decoded | .array _ _, _, _, decoded
  | .broken _ _, _, _, decoded => absurd decoded (FilterNode.notMember_ne_value _)

/-- A decoded group is one that was read, with its children. -/
theorem FilterGroup.isRead_of_decode : (d : Document) → {g : FilterGroup} → d.isProper = true →
    FilterGroup.decode d = .value g → g.node.IsRead
  | .object _ members, _, proper, decoded =>
      FilterGroup.isRead_of_ofFields (.named FilterGroup.fieldNames members) proper
        decoded fun found => FilterNode.isRead_of_inMembers members proper found
  | .array _ (.cons operator (.cons children rest)), _, proper, decoded => by
      have childrenProper : children.isProper = true :=
        (Bool.and_eq_true_iff.mp (Bool.and_eq_true_iff.mp proper).2).1
      refine FilterGroup.isRead_of_ofFields
        (.listed FilterGroup.fieldNames (.cons operator (.cons children rest))) proper
        decoded fun found => ?_
      obtain ⟨nodes, read, rfl⟩ := Found.of_map_eq_value found
      exact FilterNode.isRead_of_decodeAll children childrenProper
        (Decoded.of_placedAt_eq_value (Found.of_inPart_eq_value read))
  | .array _ (.closed _), _, proper, decoded | .array _ (.broken _), _, proper, decoded
  | .array _ (.tooDeep _ _), _, proper, decoded
  | .array _ (.cons _ (.closed _)), _, proper, decoded
  | .array _ (.cons _ (.broken _)), _, proper, decoded
  | .array _ (.cons _ (.tooDeep _ _)), _, proper, decoded =>
      FilterGroup.isRead_of_listed proper decoded
  | .null _, _, _, decoded | .boolean _ _, _, _, decoded | .integer _ _, _, _, decoded
  | .double _ _, _, _, decoded | .string _ _, _, _, decoded | .broken _ _, _, _, decoded => by
      rw [FilterGroup.decode] at decoded
      · exact absurd decoded (Decode.mismatch_ne_value _)
      all_goals nofun

theorem FilterNode.isRead_of_inMembers : (members : Members) →
    {found : Option (List FilterNode)} → members.isProper = true →
    FilterNode.inMembers members = .value found → ∀ n ∈ found.getD [], n.IsRead
  | .closed _, _, _, read | .broken _, _, _, read | .tooDeep _ _, _, _, read => by
      cases read
      exact List.forall_mem_nil _
  | .cons place name colon value next rest, found, proper, read => by
      obtain ⟨valueProper, restProper⟩ := Bool.and_eq_true_iff.mp proper
      rw [FilterNode.inMembers] at read
      split at read
      · obtain ⟨g, u, mapped, -, rfl⟩ := Found.of_seq_eq_value read
        obtain ⟨nodes, readNodes, rfl⟩ := Found.of_map_eq_value mapped
        exact FilterNode.isRead_of_decodeAll value valueProper
          (Decoded.of_placedAt_eq_value (Found.of_inPart_eq_value readNodes))
      · exact FilterNode.isRead_of_inMembers rest restProper read

theorem FilterNode.isRead_of_decodeAll : (d : Document) → {nodes : List FilterNode} →
    d.isProper = true → FilterNode.decodeAll d = .value nodes → ∀ n ∈ nodes, n.IsRead
  | .array _ items, _, proper, read => FilterNode.isRead_of_decodeItems items proper read
  | .null _, _, _, read | .boolean _ _, _, _, read | .integer _ _, _, _, read
  | .double _ _, _, _, read | .string _ _, _, _, read | .object _ _, _, _, read
  | .broken _ _, _, _, read => by
      rw [FilterNode.decodeAll] at read
      · exact absurd read (Decode.mismatch_ne_value _)
      · nofun

theorem FilterNode.isRead_of_decodeItems : (items : Items) → {nodes : List FilterNode} →
    items.isProper = true → FilterNode.decodeItems items = .value nodes → ∀ n ∈ nodes, n.IsRead
  | .closed _, _, _, read => by
      cases read
      exact List.forall_mem_nil _
  | .broken _, _, _, read | .tooDeep _ _, _, _, read => by cases read
  | .cons item rest, _, proper, read => by
      obtain ⟨itemProper, restProper⟩ := Bool.and_eq_true_iff.mp proper
      obtain ⟨first, readFirst, read⟩ := Decoded.of_bind_eq_value read
      obtain ⟨others, readOthers, read⟩ := Decoded.of_bind_eq_value read
      cases read
      exact List.forall_mem_cons.mpr
        ⟨FilterNode.isRead_of_decode item itemProper (Decoded.of_placedAt_eq_value readFirst),
          FilterNode.isRead_of_decodeItems rest restProper readOthers⟩

end

/-! ## Writing and reading again -/

/-- A condition is read from its JSON form, with its values as they are read again. -/
theorem Condition.decode_toJson {c : Condition} (values : ∀ v ∈ c.values, v.IsRead) :
    decode c.toJson.toDocument = .value { c with values := c.values.map Value.reread } := by
  have list := Decode.list_array Value.toJson Value.reread fun v member => (values v member).again
  simp [toJson, decode, Decode.structure_object, Fields.required_written,
    Fields.withDefault_written, valueUnder?, ConditionOperator.decode_toJson, list]

/-- A column set is read from its JSON form. -/
theorem ColumnSet.decode_toJson (c : ColumnSet) : decode c.toJson.toDocument = .value c := by
  have columns : Decode.list Decode.text (Json.array (c.columns.map Json.string)).toDocument =
      .value (c.columns.map id) :=
    Decode.list_array Json.string id fun name _ => Decode.text_string name
  rw [List.map_id] at columns
  simp [toJson, decode, Decode.structure_object, Fields.required_written,
    Fields.withDefault_written, valueUnder?, columns]

theorem Order.decode_toJson (o : Order) : decode o.toJson.toDocument = .value o := by
  simp [toJson, decode, Decode.structure_object, Fields.required_written,
    Fields.withDefault_written, valueUnder?]

/-- Paging is read from its JSON form, with a cookie or without. -/
theorem Paging.decode_toJson (p : Paging) : decode p.toJson.toDocument = .value p := by
  simp [toJson, decode, Decode.structure_object, Fields.withDefault_written, valueUnder?]

theorem Paging.nullable_toJson (p : Paging) :
    Decode.nullable decode p.toJson.toDocument = .value (some p) :=
  congrArg (some <$> ·) p.decode_toJson

theorem LogicalOperator.decode_toJson {operator : LogicalOperator}
    (known : ofName operator.name = operator) :
    decode operator.toJson.toDocument = .value operator := by
  simp [toJson, decode, known]

namespace FilterNode

/-- Children are read from their JSON forms one by one. -/
theorem decodeItems_toItems {nodes : List FilterNode} {f : Value → Value}
    (read : ∀ n ∈ nodes, decode n.toJson.toDocument = .value (n.mapValues f)) :
    decodeItems (Json.toItems (toJsons nodes)) = .value (mapAllValues f nodes) := by
  induction nodes with
  | nil => rfl
  | cons n rest ih =>
      have others := ih fun n member => read n (List.mem_cons_of_mem _ member)
      rw [toJsons, Json.toItems, decodeItems, read n List.mem_cons_self, others]
      rfl

end FilterNode

theorem FilterGroup.decode_object (entries : List (String × Json)) :
    decode (Json.object entries).toDocument =
      ofFields (.written fieldNames entries) (FilterNode.inMembers (Json.toMembers entries)) := by
  rw [Json.toDocument, decode, Fields.written]

/-- A group is read from its JSON form if its children are. -/
theorem FilterGroup.decode_toJson {operator : LogicalOperator} {children : List FilterNode}
    {f : Value → Value} (known : LogicalOperator.ofName operator.name = operator)
    (read : ∀ n ∈ children, FilterNode.decode n.toJson.toDocument = .value (n.mapValues f)) :
    decode (toJson ⟨operator, children⟩).toDocument =
      .value ⟨operator, FilterNode.mapAllValues f children⟩ := by
  have nodes := FilterNode.decodeItems_toItems read
  have found : FilterNode.inMembers (Json.toMembers [("filterOperator", operator.toJson),
      ("children", .array (FilterNode.toJsons children))]) =
        .value (some (FilterNode.mapAllValues f children)) := by
    simp [Json.toMembers, FilterNode.inMembers, WrittenString.is, Json.toDocument,
      FilterNode.decodeAll, nodes, Members.unrepeated]
  rw [toJson, decode_object, found, ofFields, Fields.complete_written]
  simp [Fields.required_written, valueUnder?, LogicalOperator.decode_toJson known]

/-- A tree that was read is read from its JSON form, with its values as they are read again. -/
theorem FilterNode.decode_toJson {n : FilterNode} (isRead : n.IsRead) :
    decode n.toJson.toDocument = .value (n.mapValues Value.reread) := by
  induction isRead with
  | condition values =>
      have condition := Condition.decode_toJson values
      rw [toJson, Json.toDocument, Json.toMembers, Json.toMembers, decode, if_neg (by decide),
        if_pos rfl, condition]
      rfl
  | @group operator children known _ ih =>
      have group := FilterGroup.decode_toJson known ih
      rw [FilterGroup.toJson] at group
      rw [toJson, Json.toDocument, Json.toMembers, Json.toMembers, decode, if_pos rfl, group]
      rfl

/-! ## Queries -/

/-- The query with other values in its conditions. -/
def Query.mapValues (f : Value → Value) (q : Query) : Query :=
  { q with criteria := ⟨q.criteria.operator, FilterNode.mapAllValues f q.criteria.children⟩ }

theorem FilterGroup.isRead_all_nil : (all []).node.IsRead :=
  .group rfl (List.forall_mem_nil _)

/-- The filter of a decoded query is a tree that was read, also where it was left out. -/
theorem Query.isRead_of_decode {d : Document} {q : Query} (proper : d.isProper = true)
    (decoded : decode d = .value q) : q.criteria.node.IsRead := by
  obtain ⟨fields, fieldsProper, found⟩ := Decode.of_structure proper decoded
  obtain ⟨_, top, upToPaging, -, rfl⟩ := Found.of_seq_eq_value found
  obtain ⟨_, paging, upToOrders, -, rfl⟩ := Found.of_seq_eq_value upToPaging
  obtain ⟨_, orders, upToCriteria, -, rfl⟩ := Found.of_seq_eq_value upToOrders
  obtain ⟨_, criteria, upToColumns, foundCriteria, rfl⟩ := Found.of_seq_eq_value upToCriteria
  obtain ⟨_, columns, upToEntity, -, rfl⟩ := Found.of_seq_eq_value upToColumns
  obtain ⟨entity, -, rfl⟩ := Found.of_map_eq_value upToEntity
  rcases Fields.of_withDefault fieldsProper foundCriteria with rfl | ⟨part, partProper, read⟩
  · exact FilterGroup.isRead_all_nil
  · exact FilterGroup.isRead_of_decode part partProper read

/-- A query whose filter was read is read from its JSON form, with its values as they are read
again. -/
theorem Query.decode_toJson {q : Query} (isRead : q.criteria.node.IsRead) :
    decode q.toJson.toDocument = .value (q.mapValues Value.reread) := by
  obtain ⟨entity, columnSet, ⟨operator, children⟩, orders, paging, top⟩ := q
  have criteria : FilterGroup.decode (FilterGroup.toJson ⟨operator, children⟩).toDocument =
      .value ⟨operator, FilterNode.mapAllValues Value.reread children⟩ := by
    cases isRead with
    | group known each =>
        exact FilterGroup.decode_toJson known fun n member =>
          FilterNode.decode_toJson (each n member)
  have ordering : Decode.list Order.decode (Json.array (orders.map Order.toJson)).toDocument =
      .value (orders.map id) :=
    Decode.list_array Order.toJson id fun o _ => o.decode_toJson
  rw [List.map_id] at ordering
  cases paging <;> cases top <;>
    simp [toJson, decode, mapValues, Decode.structure_object, Fields.required_written,
      Fields.withDefault_written, valueUnder?, columnSet.decode_toJson, criteria, ordering,
      Paging.nullable_toJson, Decode.nullable_uint32]

end EntityGateway
