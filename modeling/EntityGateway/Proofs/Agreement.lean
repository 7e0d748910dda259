import EntityGateway.OData.Compile
import EntityGateway.Proofs.FilterTrees
import EntityGateway.Sql.Compile

/-!
# The two compilers agree

Queries whose conditions compare by the six operators that both stores have are compiled to
statements and to options that ask for the same: `ofQuery_sameOutcome`. Either compiler fails where
the other does and for the same cause, so which store an entity is kept in does not decide which
queries are rejected or why.

The one thing the compilers differ in is how they write a text that is compared with identifiers or
instants. The document store keeps its records as text and is sent the text as it came; the remote
service knows the type and is sent what the text reads as, `normalizedText?`.
-/

namespace EntityGateway

/-! ## Values -/

/-- The text of a literal without the quotes around it. -/
def Sql.Literal.unquoted : Sql.Literal → List Char
  | .string s => s.toList
  | other => other.chars

/-- The text of a literal without the quotes around it. -/
def OData.Literal.unquoted : OData.Literal → List Char
  | .string s => s.toList
  | other => other.chars

/-- The text of the identifier or the instant that a text reads as, where it is compared with an
attribute of a type that has such values. -/
def normalizedText? (type : AttributeType) : Value → Option (List Char)
  | .string s =>
    if type.isIdentifier then (Uuid.read? (Text.trim s)).map fun u => u.text.toList
    else if type = .dateTime then (Instant.read? (Text.trim s)).map fun i => i.text.toList
    else none
  | _ => none

/-- The literals that a value is compiled to have the same text, unless the value is one that only
the remote service is sent in normal form. -/
structure LiteralsAgree (type : AttributeType) (v : Value) (l : Sql.Literal) (r : OData.Literal) :
    Prop where
  text : r.unquoted = (normalizedText? type v).getD l.unquoted
  /-- What is normalized for the one store is a text that the other is sent as it is. -/
  kept : (normalizedText? type v).isSome → v = .string (String.ofList l.unquoted)

theorem LiteralsAgree.of_eq {type : AttributeType} {v : Value} {l : Sql.Literal}
    {r : OData.Literal} (asIs : normalizedText? type v = none) (same : r.unquoted = l.unquoted) :
    LiteralsAgree type v l r where
  text := by rw [asIs, same, Option.getD_none]
  kept some := by simp [asIs] at some

theorem Value.toList_integerText (n : Int) :
    (Value.integerText n).toList = Sql.integerChars n := by
  rw [Value.integerText, String.toList_ofList, Sql.integerChars]

/-- The value is a number, or an array or object, which has no literal in either dialect. -/
def Value.isNumberOrJson : Value → Bool
  | integer _ | option _ | double _ | money _ | decimal _ | json _ => true
  | _ => false

/-- Numbers have the same text in both dialects. -/
theorem ofNumber?_rel_ofOwnKind? (type : AttributeType) {v : Value}
    (number : v.isNumberOrJson = true) :
    Option.Rel (LiteralsAgree type v) (Sql.Literal.ofNumber? v) (OData.Literal.ofOwnKind? v) := by
  cases v with
  | integer n => exact .some (.of_eq rfl (Value.toList_integerText _))
  | option code =>
      have same : (Value.integerText code.toInt).toList =
          Sql.integerChars code.toInt64.toInt := by
        rw [Int32.toInt_toInt64, Value.toList_integerText]
      exact .some (.of_eq rfl same)
  | double d =>
      simp only [Sql.Literal.ofNumber?, OData.Literal.ofOwnKind?]
      split
      · exact .some (.of_eq rfl String.toList_ofList)
      · exact .none
  | money amount => exact .some (.of_eq rfl rfl)
  | decimal amount => exact .some (.of_eq rfl rfl)
  | json raw => exact .none
  | _ => cases number

theorem ofTypedText?_eq (type : AttributeType) (s : String) :
    OData.Literal.ofTypedText? type s =
      (normalizedText? type (.string s)).map fun cs => .raw (String.ofList cs) := by
  unfold OData.Literal.ofTypedText? normalizedText?
  split
  · simp [Function.comp_def]
  · split
    · simp [Function.comp_def]
    · rfl

/-- Where a text has a normal form, attributes of the type are written as text. -/
theorem literalKind_of_normalizedText? {type : AttributeType} {v : Value}
    (normal : (normalizedText? type v).isSome) : type.literalKind = .text := by
  cases v with
  | string s => cases type <;> first | rfl | cases normal
  | _ => cases normal

/-- Only attributes that are compared with texts have values in normal form. -/
theorem normalizedText?_of_literalKind {type : AttributeType} (other : type.literalKind ≠ .text)
    (v : Value) : normalizedText? type v = none := by
  by_contra normal
  exact other (literalKind_of_normalizedText? (Option.isSome_iff_ne_none.mpr normal))

/-- What is compared with a text is written alike, up to the normal form of identifiers and
instants. -/
theorem text?_rel_ofTextual? (type : AttributeType) (v : Value) :
    Option.Rel (LiteralsAgree type v) (v.text?.map .string)
      (OData.Literal.ofTextual? type v) := by
  cases v with
  | uuid u =>
      simp only [OData.Literal.ofTextual?]
      split <;> exact .some (.of_eq rfl rfl)
  | instant i =>
      simp only [OData.Literal.ofTextual?]
      split <;> exact .some (.of_eq rfl rfl)
  | string s =>
      rw [OData.Literal.ofTextual?, ofTypedText?_eq]
      refine .some ⟨?_, fun _ => ?_⟩
      · cases normalizedText? type (.string s) with
        | none => rfl
        | some cs => exact String.toList_ofList
      · exact congrArg Value.string String.ofList_toList.symm
  | boolean b => cases b <;> exact .some (.of_eq rfl rfl)
  | null | json => exact .none
  | integer | double | option | money | decimal => exact .some (.of_eq rfl rfl)

/-- Whatever a value is compared with, both dialects have a literal for it or neither has. -/
theorem ofKind?_rel_ofTyped? (type : AttributeType) (v : Value) :
    Option.Rel (LiteralsAgree type v) (Sql.Literal.ofKind? type.literalKind v)
      (if v.isNull then some .null else OData.Literal.ofTyped? type v) := by
  have asIs (other : type.literalKind ≠ .text) (s : String) :=
    normalizedText?_of_literalKind other (.string s)
  unfold OData.Literal.ofTyped?
  cases kind : type.literalKind with
  | text =>
      cases v with
      | null => exact .some (.of_eq rfl rfl)
      | _ => exact text?_rel_ofTextual? type _
  | number =>
      cases v with
      | null => exact .some (.of_eq rfl rfl)
      | string s =>
          change Option.Rel _ ((numericText? s).map Sql.Literal.number)
            ((numericText? s).map OData.Literal.raw)
          cases numericText? s with
          | none => exact .none
          | some text => exact .some (.of_eq (asIs (by simp [kind]) s) rfl)
      | boolean | uuid | instant => exact .none
      | integer | option | double | money | decimal | json =>
          exact ofNumber?_rel_ofOwnKind? type rfl
  | boolean =>
      cases v with
      | null => exact .some (.of_eq rfl rfl)
      | boolean b => cases b <;> exact .some (.of_eq rfl rfl)
      | string s =>
          change Option.Rel _ ((truthText? s).map Sql.Literal.boolean)
            ((truthText? s).map OData.Literal.boolean)
          cases truthText? s with
          | none => exact .none
          | some truth => cases truth <;> exact .some (.of_eq (asIs (by simp [kind]) s) rfl)
      | integer | option | double | money | decimal | json | uuid | instant => exact .none
  | untyped =>
      cases v with
      | null => exact .some (.of_eq rfl rfl)
      | boolean b => cases b <;> exact .some (.of_eq rfl rfl)
      | uuid | instant => exact .some (.of_eq rfl rfl)
      | string s => exact .some (.of_eq (asIs (by simp [kind]) s) rfl)
      | integer | option | double | money | decimal | json =>
          exact ofNumber?_rel_ofOwnKind? type rfl

/-- A value that is compared with an attribute is compiled to literals that agree, or is rejected by
both compilers. -/
theorem ofValue_sameOutcome (a : AttributeMetadata) (v : Value) :
    SameOutcome (LiteralsAgree a.type v) (Sql.Literal.ofValue a v)
      (OData.Literal.ofComparison a v) := by
  have related := ofKind?_rel_ofTyped? a.type v
  unfold Sql.Literal.ofValue OData.Literal.ofComparison
  generalize Sql.Literal.ofKind? a.type.literalKind v = left at related ⊢
  generalize (if v.isNull then some .null else OData.Literal.ofTyped? a.type v) = right
    at related ⊢
  cases related with
  | none => exact .error _
  | some agree => exact .ok agree

/-! ## Filters -/

/-- The comparison of the one dialect that means what a comparison of the other means. -/
def Sql.Comparison.toOData : Sql.Comparison → OData.Comparison
  | .equal => .equal
  | .notEqual => .notEqual
  | .greater => .greater
  | .less => .less
  | .greaterOrEqual => .greaterOrEqual
  | .lessOrEqual => .lessOrEqual

/-- Two filters have the same connectives and the same comparisons of the same properties in the
same places, with literals that agree. -/
inductive FiltersAgree (m : EntityMetadata) : Sql.Expression → OData.Expression → Prop
  | all {ls : List Sql.Expression} {rs : List OData.Expression} :
    List.Forall₂ (FiltersAgree m) ls rs → FiltersAgree m (.all ls) (.all rs)
  | any {ls : List Sql.Expression} {rs : List OData.Expression} :
    List.Forall₂ (FiltersAgree m) ls rs → FiltersAgree m (.any ls) (.any rs)
  | compare {a : AttributeMetadata} {v : Value} {l : Sql.Literal} {r : OData.Literal}
    (comparison : Sql.Comparison) :
    a ∈ m.attributes → Sql.Literal.ofValue a v = .ok l → OData.Literal.ofComparison a v = .ok r →
    LiteralsAgree a.type v l r →
    FiltersAgree m
      (.compare (.column ⟨Sql.defaultAlias, a.externalName⟩) comparison (.literal l))
      (.compare a.externalName comparison.toOData r)

/-- The operators that both stores have. -/
def comparisonOperators : List ConditionOperator :=
  [.equal, .notEqual, .greaterThan, .lessThan, .greaterEqual, .lessEqual]

/-- The comparison operators stand for the same comparison in either dialect. -/
theorem ofOperator?_of_mem {operator : ConditionOperator}
    (compares : operator ∈ comparisonOperators) :
    ∃ comparison, Sql.Comparison.ofOperator? operator = some comparison ∧
      OData.OperatorForm.of? operator = some (.compare comparison.toOData) := by
  simp only [comparisonOperators, List.mem_cons, List.not_mem_nil, or_false] at compares
  rcases compares with rfl | rfl | rfl | rfl | rfl | rfl <;> exact ⟨_, rfl, rfl⟩

/-- A condition is looked at in one order by both compilers: the attribute, the number of values,
and then the value. -/
theorem ofCondition_sameOutcome {m : EntityMetadata} {c : Condition}
    (compares : c.operator ∈ comparisonOperators) :
    SameOutcome (FiltersAgree m) (Sql.Expression.ofCondition m c)
      (OData.Expression.ofCondition m c) := by
  obtain ⟨name, operator, values⟩ := c
  obtain ⟨comparison, sql, odata⟩ := ofOperator?_of_mem compares
  rw [Sql.Expression.ofCondition, OData.Expression.ofCondition, sql, odata]
  cases found : m.lookup name with
  | error cause => exact .error cause
  | ok a =>
      match values with
      | [v] =>
          obtain ⟨cause, left, right⟩ | ⟨l, r, left, right, agree⟩ :=
            (ofValue_sameOutcome a v).error_or_ok
          · simp only [OData.OperatorForm.compare, Arity.accepts, OData.Expression.ofForm, left,
              right]
            exact .error cause
          · simp only [OData.OperatorForm.compare, Arity.accepts, OData.Expression.ofForm, left,
              right]
            exact .ok (.compare comparison (m.mem_attributes_of_lookup found) left right agree)
      | [] => exact .error _
      | _ :: _ :: _ => exact .error _

/-! ## Columns and order -/

/-- The names with another behind them, if it is not among them. -/
def withName (name : String) (names : List String) : List String :=
  if name ∈ names then names else names ++ [name]

theorem eraseDups_append_singleton (names : List String) (name : String) :
    (names ++ [name]).eraseDups = withName name names.eraseDups := by
  rw [List.eraseDups_append, withName]
  by_cases member : name ∈ names
  · simp [member, List.removeAll]
  · simp [member, List.removeAll, List.eraseDups_cons]

/-- The columns of a statement are those that the options select, and the one that identifies a
record; where the options select none by name, the statement asks for all as well. -/
def ColumnsAgree (identifier : String) (columns : Option (List Sql.Column))
    (select : List String) : Prop :=
  columns = if select = [] then none
    else some ((withName identifier select).map fun name => ⟨Sql.defaultAlias, name⟩)

/-- The columns of a statement are the selection of the options with the identifier, which is
known. -/
theorem columnsOf_sameOutcome {m : EntityMetadata} {p : AttributeMetadata}
    (identified : m.primaryId = .ok p) (columnSet : ColumnSet) :
    SameOutcome (ColumnsAgree p.externalName) (Sql.columnsOf m columnSet)
      (OData.selectOf m columnSet) := by
  have external : m.externalFor m.primaryIdAttribute = .ok p.externalName := by
    rw [EntityMetadata.primaryId] at identified
    rw [EntityMetadata.externalFor, EntityMetadata.toExternal, identified]
    rfl
  unfold Sql.columnsOf OData.selectOf
  split
  · rename_i restricted
    have visible : columnSet.columns ≠ [] := by
      intro none
      simp [ColumnSet.isRestricted, none] at restricted
    have last : [m.primaryIdAttribute].mapM m.externalFor = .ok [p.externalName] := by
      rw [List.mapM_cons, external]
      rfl
    rw [EntityMetadata.projection, EntityMetadata.projection, List.mapM_append, last]
    cases found : columnSet.columns.mapM m.externalFor with
    | error cause => exact .error cause
    | ok names =>
        have selected : names.eraseDups ≠ [] := by
          have length := (forall₂_of_mapM_eq_ok found).length_eq
          cases names with
          | nil => exact absurd (List.length_eq_zero_iff.mp length) visible
          | cons first others => simp [List.eraseDups_cons]
        refine .ok ?_
        rw [ColumnsAgree, if_neg selected, ← eraseDups_append_singleton]
  · exact .ok rfl

/-- The order of a statement is that of the options. -/
def OrdersAgree (left : List Sql.Ordering) (right : List OData.Ordering) : Prop :=
  left = right.map fun o => ⟨⟨Sql.defaultAlias, o.property⟩, o.descending⟩

/-- Both dialects order by the same properties in the same directions. -/
theorem orderOf_sameOutcome (m : EntityMetadata) (orders : List Order) :
    SameOutcome OrdersAgree (Sql.orderOf m orders) (OData.orderOf m orders) := by
  unfold Sql.orderOf OData.orderOf
  cases m.ordering orders with
  | error cause => exact .error cause
  | ok names =>
      refine .ok ?_
      rw [OrdersAgree, List.map_map]
      rfl

/-! ## Queries -/

/-- The condition of a statement agrees with the filter of the options, and is left out exactly
where there is no filter. -/
structure ConditionsAgree (m : EntityMetadata) (condition : Sql.Expression)
    (filter : Option OData.Expression) : Prop where
  absent : Sql.conditionChars condition = [] ↔ filter = none
  present : ∀ e ∈ filter, FiltersAgree m condition e

theorem ConditionsAgree.given {m : EntityMetadata} {l : Sql.Expression} {r : OData.Expression}
    (agree : FiltersAgree m l r) (written : Sql.conditionChars l ≠ []) :
    ConditionsAgree m l (some r) where
  absent := ⟨fun omitted => absurd omitted written, fun absent => by cases absent⟩
  present e member := by rwa [← Option.some.inj member]

/-- Filters that only compare are compiled alike, and are left out alike. -/
theorem ofCriteria_sameOutcome {m : EntityMetadata} {g : FilterGroup}
    (compares : g.node.Every fun c => c.operator ∈ comparisonOperators) :
    SameOutcome (ConditionsAgree m) (Sql.Expression.ofCriteria m g) (OData.filterOf m g) := by
  have omitted : ConditionsAgree m .always none := ⟨⟨fun _ => rfl, fun _ => rfl⟩, by simp⟩
  have same : SameOutcome (FiltersAgree m) ((Sql.filterDialect m).node g.node)
      ((OData.filterDialect m).node g.node) :=
    FilterDialect.node_sameOutcome ofCondition_sameOutcome .all .any compares
  rw [Sql.Expression.ofCriteria, OData.filterOf, FilterDialect.root, FilterDialect.root]
  split
  · exact .ok omitted
  · obtain ⟨cause, left, right⟩ | ⟨l, r, left, right, agree⟩ := same.error_or_ok
    · rw [left, right]
      exact .error cause
    · rw [left, right]
      refine .ok ?_
      cases agree with
      | all items =>
          -- joining nothing by `and` demands nothing, and both compilers leave it out
          cases items with
          | nil => exact omitted
          | cons first others =>
              exact .given (.all (.cons first others)) (by simp [Sql.conditionChars])
      | any items => exact .given (.any items) (by simp [Sql.conditionChars])
      | compare comparison member sql odata agree =>
          exact .given (.compare comparison member sql odata agree) (by simp [Sql.conditionChars])

/-- A statement and options ask for the same records, in the same order, and for the same properties
of them, except that only the statement has to ask for the identifier. -/
structure QueriesAgree (m : EntityMetadata) (identifier : String) (s : Sql.Select)
    (o : OData.Options) : Prop where
  top : s.top = o.top
  columns : ColumnsAgree identifier s.columns o.select
  order : OrdersAgree s.order o.order
  condition : ConditionsAgree m s.condition o.filter

/-- A query whose conditions use the comparison operators only is rejected by both compilers for the
same cause, or compiled by both to what asks for the same. -/
theorem ofQuery_sameOutcome {m : EntityMetadata} {p : AttributeMetadata}
    (identified : m.primaryId = .ok p) {q : Query}
    (compares : q.criteria.node.Every fun c => c.operator ∈ comparisonOperators) :
    SameOutcome (QueriesAgree m p.externalName) (Sql.Select.ofQuery m q)
      (OData.Options.ofQuery m q) := by
  refine (columnsOf_sameOutcome identified q.columnSet).bind fun columns => ?_
  refine (orderOf_sameOutcome m q.orders).bind fun order => ?_
  refine (ofCriteria_sameOutcome compares).bind fun condition => ?_
  exact .ok ⟨rfl, columns, order, condition⟩

/-- An entity with attributes whose values the two stores are sent differently. -/
def orderEntity : EntityMetadata where
  logicalName := "order"
  externalName := "order"
  externalCollectionName := "orders"
  primaryIdAttribute := "id"
  attributes := [⟨"id", "Id", .uniqueidentifier⟩, ⟨"placed", "PlacedOn", .dateTime⟩,
    ⟨"total", "Total", .money⟩]

/-- A query for some columns of `orderEntity`, not its identifier, with a filter of wrapped groups
and of texts that read as values. -/
def orderQuery : Query where
  entity := "order"
  columnSet := .only ["total", "placed", "total"]
  criteria := .any [.group .and [.group .or [
    .condition ⟨"id", .notEqual, [.string "00000000-0000-0000-0000-00000000000A"]⟩,
    .group .and [], .condition ⟨"total", .greaterEqual, [.string " 12.50 "]⟩]]]
  orders := [⟨"placed", true⟩]
  top := some 3

/-- Wrapped groups, texts that read as values, and a column that is asked for twice. -/
theorem ofQuery_sameOutcome_orderQuery :
    (∃ p, orderEntity.primaryId = .ok p ∧
      (orderQuery.criteria.node.Every fun c => c.operator ∈ comparisonOperators) ∧
      SameOutcome (QueriesAgree orderEntity p.externalName)
        (Sql.Select.ofQuery orderEntity orderQuery) (OData.Options.ofQuery orderEntity orderQuery)) ∧
    ∃ s o, Sql.Select.ofQuery orderEntity orderQuery = .ok s ∧
      OData.Options.ofQuery orderEntity orderQuery = .ok o := by
  have compares : orderQuery.criteria.node.Every fun c => c.operator ∈ comparisonOperators := by
    refine .group (List.forall_mem_singleton.mpr (.group (List.forall_mem_singleton.mpr ?_)))
    refine .group fun n member => ?_
    simp only [List.mem_cons, List.not_mem_nil, or_false] at member
    rcases member with rfl | rfl | rfl
    · exact .condition (by decide)
    · exact .group (by simp)
    · exact .condition (by decide)
  exact ⟨⟨_, rfl, compares, ofQuery_sameOutcome rfl compares⟩, _, _, rfl, rfl⟩

end EntityGateway
