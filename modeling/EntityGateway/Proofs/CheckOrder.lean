import EntityGateway.Proofs.Agreement
import EntityGateway.Proofs.Checks
import EntityGateway.Proofs.OData.ConditionValues

/-!
# The order of the checks

Each compiler goes through the checks of a query in their order and stops at the first one that
fails. So a query with several faults, at whatever depth of its filter, is always rejected for the
same one: `ofQuery_decidedBy`. What the dialects demand of conditions is told here by lists of
operators and by the kinds of values, and not by what the compilers make of them.
-/

namespace EntityGateway

/-! ## Which values fit -/

/-- A value can be compared with attributes that are written in a way. -/
def Value.fits : LiteralKind → Value → Bool
  | _, null => true
  | _, json _ => false
  | .text, _ => true
  | .number, integer _ | .number, option _ | .number, money _ | .number, decimal _ => true
  | .number, string s => (numericText? s).isSome
  | .boolean, boolean _ => true
  | .boolean, string s => (truthText? s).isSome
  | .untyped, double d | .number, double d => d.isFinite
  | .number, _ | .boolean, _ => false
  | .untyped, _ => true

/-- A value can be the argument of a function. -/
def Value.isArgument : Value → Bool
  | double d => d.isFinite
  | json _ => false
  | _ => true

/-- A value has a text that can be searched for. -/
def Value.isText : Value → Bool
  | null | json _ => false
  | _ => true

/-- No cause if the value fits, and otherwise that it does not. -/
def mismatchUnless (fits : Bool) (a : AttributeMetadata) (v : Value) : Option CompileError :=
  if fits then none else some (.mismatch a v)

theorem isSome_eq_of_rel {α β : Type} {R : α → β → Prop} {x : Option α} {y : Option β}
    (related : Option.Rel R x y) : x.isSome = y.isSome := by
  cases related <;> rfl

namespace Value

theorem isSome_text? (v : Value) : v.text?.isSome = v.isText := by
  cases v with
  | boolean b => cases b <;> rfl
  | _ => rfl

/-- A literal of a kind is made of exactly the values that fit the kind. -/
theorem isSome_ofKind? (kind : LiteralKind) (v : Value) :
    (Sql.Literal.ofKind? kind v).isSome = v.fits kind := by
  cases kind with
  | text =>
      cases v with
      | boolean b => cases b <;> rfl
      | _ => rfl
  | number =>
      cases v with
      | string s => exact Option.isSome_map
      | double d => exact Bool.eq_iff_iff.mpr Option.isSome_ite
      | _ => rfl
  | boolean =>
      cases v with
      | string s => exact Option.isSome_map
      | _ => rfl
  | untyped =>
      cases v with
      | double d => exact Bool.eq_iff_iff.mpr Option.isSome_ite
      | _ => rfl

/-- A value has a literal of its own exactly if a function of the platform can be told it. -/
theorem isSome_ofOwnKind? (v : Value) : (OData.Literal.ofOwnKind? v).isSome = v.isArgument := by
  cases v with
  | double d => exact Bool.eq_iff_iff.mpr Option.isSome_ite
  | _ => rfl

end Value

/-! ## The document store -/

namespace Sql

/-- Only the six comparisons can be written, with one value that fits the attribute's type. -/
def demands : Demands where
  operatorFault? operator :=
    if operator ∈ comparisonOperators then none else some (.unsupportedOperator operator)
  arity _ := .exactly 1
  valueFault? _ a v := mismatchUnless (v.fits a.type.literalKind) a v

/-- The operators that statements know are listed. -/
theorem mem_comparisonOperators {operator : ConditionOperator} {comparison : Comparison}
    (written : Comparison.ofOperator? operator = some comparison) :
    operator ∈ comparisonOperators := by
  cases operator <;> first | decide | cases written

/-- A value is refused in a statement exactly if it does not fit the attribute's kind. -/
theorem cause?_ofValue (a : AttributeMetadata) (v : Value) :
    cause? (Literal.ofValue a v) = mismatchUnless (v.fits a.type.literalKind) a v := by
  rw [← Value.isSome_ofKind?, Literal.ofValue]
  cases Literal.ofKind? a.type.literalKind v <;> rfl

/-- A condition of a statement fails for the first of its checks that fails. -/
theorem cause?_ofCondition (m : EntityMetadata) (c : Condition) :
    cause? (Expression.ofCondition m c) = c.checks.findSome? (Check.fault? demands m) := by
  rw [Condition.findSome?_checks, Expression.ofCondition]
  cases written : Comparison.ofOperator? c.operator with
  | none =>
      have unsupported : c.operator ∉ comparisonOperators := fun compares => by
        obtain ⟨comparison, known, -⟩ := ofOperator?_of_mem compares
        cases written.symm.trans known
      simp only [demands, if_neg unsupported]
      rfl
  | some comparison =>
      simp only [demands, if_pos (mem_comparisonOperators written)]
      cases m.lookup c.attributeName with
      | error cause => rfl
      | ok a =>
          match c.values with
          | [v] =>
              change cause? ((Literal.ofValue a v).map _) = [v].findSome? _
              rw [cause?_map, cause?_ofValue, List.findSome?_singleton]
          | [] => rfl
          | _ :: _ :: _ => rfl

/-- The columns of a statement fail for the first name that is unknown, the identifier's last. -/
theorem cause?_columnsOf (m : EntityMetadata) (columnSet : ColumnSet) :
    cause? (columnsOf m columnSet) =
      (columnSet.checks [m.primaryIdAttribute]).findSome? (Check.fault? demands m) := by
  rw [columnsOf, ColumnSet.checks]
  split_ifs
  · rw [cause?_map, m.cause?_projection demands]
  · rfl

/-- The order of a statement fails for the first name that is unknown. -/
theorem cause?_orderOf (m : EntityMetadata) (orders : List Order) :
    cause? (orderOf m orders) =
      (orders.map Order.check).findSome? (Check.fault? demands m) := by
  rw [orderOf, cause?_map, m.cause?_ordering demands]

/-- The filter tree of a statement fails for the first of its checks that fails. -/
theorem cause?_ofCriteria (m : EntityMetadata) (g : FilterGroup) :
    cause? (Expression.ofCriteria m g) = g.checks.findSome? (Check.fault? demands m) := by
  rw [Expression.ofCriteria, cause?_map]
  exact FilterDialect.cause?_root (cause?_ofCondition m) g

/-- A statement is refused for the first check of the query that fails, and for no other reason: the
columns are looked at first, then the order, then the filter. -/
theorem cause?_ofQuery (m : EntityMetadata) (q : Query) : cause? (Select.ofQuery m q) =
    (q.checks [m.primaryIdAttribute]).findSome? (Check.fault? demands m) := by
  have first : cause? (Select.ofQuery m q) = (cause? (columnsOf m q.columnSet)).or
      ((cause? (orderOf m q.orders)).or (cause? (Expression.ofCriteria m q.criteria))) :=
    cause?_bind (fun _ => cause?_bind (fun _ => cause?_bind_pure _ _) _) _
  rw [first, cause?_columnsOf, cause?_orderOf, cause?_ofCriteria, Query.checks,
    List.findSome?_append, List.findSome?_append, Option.or_assoc]

end Sql

/-! ## The remote service -/

namespace OData

/-- The operators that nothing is known about. -/
def unwritableOperators : List ConditionOperator :=
  [.childOf, .mask, .notMask, .masksSelect, .containValues, .doesNotContainValues]

/-- Why a pattern cannot be searched for: it needs a marker at one of its ends at least. -/
def patternFault? (text : String) : Option CompileError :=
  if ['%'] <+: text.toList ∨ ['%'] <:+ text.toList then none else some (.unsupportedPattern text)

/-- Why a value cannot stand in a condition of a form. -/
def ConditionForm.valueFault? (a : AttributeMetadata) :
    ConditionForm → Value → Option CompileError
  | .comparison _, v => mismatchUnless (v.fits a.type.literalKind) a v
  | .pattern _, v =>
    match v.text? with
    | some text => patternFault? text
    | none => some (.mismatch a v)
  | .search _ _, v => mismatchUnless v.isText a v
  | .callList, v => mismatchUnless (v.isNull || v.isText) a v
  | .callSingle, v | .callPair, v => mismatchUnless v.isArgument a v
  | .nullCheck _, _ | .callNone, _ => none

/-- All but a few operators can be written, with values as the table of the operators has it. -/
def demands : Demands where
  operatorFault? operator :=
    if operator ∈ unwritableOperators then some (.operatorNotImplemented operator) else none
  arity operator := ((OperatorForm.of? operator).map OperatorForm.arity).getD .ignored
  valueFault? operator a v :=
    (OperatorForm.of? operator).bind fun form => form.form.valueFault? a v

/-- The operators that options cannot write are listed. -/
theorem of?_eq_none_iff {operator : ConditionOperator} :
    OperatorForm.of? operator = none ↔ operator ∈ unwritableOperators := by
  cases operator <;> decide

theorem cause?_orMismatch (a : AttributeMetadata) (v : Value) (made : Option Literal) :
    cause? (Literal.orMismatch a v made) = mismatchUnless made.isSome a v := by
  cases made <;> rfl

/-- A value that is compared is refused exactly if it does not fit the attribute's kind, as in
statements. -/
theorem cause?_ofComparison (a : AttributeMetadata) (v : Value) :
    cause? (Literal.ofComparison a v) = mismatchUnless (v.fits a.type.literalKind) a v := by
  have same : (if v.isNull then some .null else Literal.ofTyped? a.type v).isSome =
      v.fits a.type.literalKind := by
    -- both dialects have literals for the same values
    rw [← Value.isSome_ofKind?, isSome_eq_of_rel (ofKind?_rel_ofTyped? a.type v)]
  rw [Literal.ofComparison, cause?_orMismatch, same]

/-- A value that a function is told is refused exactly if it has no literal of its own. -/
theorem cause?_ofArgument (a : AttributeMetadata) (v : Value) :
    cause? (Literal.ofArgument a v) = mismatchUnless v.isArgument a v := by
  rw [Literal.ofArgument, cause?_orMismatch, Value.isSome_ofOwnKind?]

/-- An item of a list is refused exactly if it is neither null nor a text. -/
theorem cause?_ofItem (a : AttributeMetadata) (v : Value) :
    cause? (Literal.ofItem a v) = mismatchUnless (v.isNull || v.isText) a v := by
  rw [Literal.ofItem, cause?_orMismatch, ← Value.isSome_text?]
  cases v.isNull with
  | true => rfl
  | false => cases v.text? <;> rfl

theorem cause?_searchText (a : AttributeMetadata) (v : Value) :
    cause? (searchText a v) = mismatchUnless v.isText a v := by
  rw [← Value.isSome_text?, searchText]
  cases v.text? <;> rfl

theorem cause?_ofPattern (text : String) :
    cause? (StringFunction.ofPattern text) = patternFault? text := by
  have begins : (text.toList.head? == some '%') = decide (['%'] <+: text.toList) := by
    cases text.toList <;> simp [beq_eq_decide, eq_comm]
  have ends : (text.toList.getLast? == some '%') = decide (['%'] <:+ text.toList) := by
    rw [beq_eq_decide, decide_eq_decide, List.getLast?_eq_some_iff]
    exact exists_congr fun _ => eq_comm
  rw [patternFault?, StringFunction.ofPattern, begins, ends]
  by_cases first : ['%'] <+: text.toList <;> by_cases last : ['%'] <:+ text.toList <;>
    simp [first, last, cause?]

/-- With the right number of values, a condition fails for the first value that its form cannot
take. -/
theorem cause?_ofForm {a : AttributeMetadata} {c : Condition} {form : OperatorForm}
    (met : form.form.IsMetBy c.values) :
    cause? (Expression.ofForm a c form) = c.values.findSome? (form.form.valueFault? a) := by
  obtain ⟨name, operator, values⟩ := c
  obtain ⟨written, arity⟩ := form
  cases written with
  | comparison comparison =>
      obtain ⟨v, rfl⟩ := met
      rw [List.findSome?_singleton]
      exact (cause?_bind_pure _ _).trans (cause?_ofComparison a v)
  | pattern negated =>
      obtain ⟨v, rfl⟩ := met
      rw [List.findSome?_singleton]
      change cause? (searchText a v >>= fun text => StringFunction.ofPattern text >>= _) = _
      simp only [searchText, ConditionForm.valueFault?]
      cases v.text? with
      | none => rfl
      | some text => exact (cause?_bind_pure _ _).trans (cause?_ofPattern text)
  | search function negated =>
      obtain ⟨v, rfl⟩ := met
      rw [List.findSome?_singleton]
      exact (cause?_bind_pure _ _).trans (cause?_searchText a v)
  | nullCheck negated => exact (List.findSome?_eq_none_iff.mpr fun _ _ => rfl).symm
  | callList =>
      exact (cause?_bind_pure _ _).trans (cause?_mapM fun v _ => cause?_ofItem a v)
  | callSingle =>
      obtain ⟨v, rfl⟩ := met
      rw [List.findSome?_singleton]
      exact (cause?_bind_pure _ _).trans (cause?_ofArgument a v)
  | callNone => exact (List.findSome?_eq_none_iff.mpr fun _ _ => rfl).symm
  | callPair =>
      obtain ⟨v, w, rfl⟩ := met
      refine (cause?_bind (fun _ => cause?_bind_pure _ _) _).trans ?_
      rw [cause?_ofArgument, cause?_ofArgument, List.findSome?_cons, List.findSome?_singleton]
      simp only [ConditionForm.valueFault?]
      cases mismatchUnless v.isArgument a v <;> rfl

/-- A condition of the options fails for the first of its checks that fails. -/
theorem cause?_ofCondition (m : EntityMetadata) (c : Condition) :
    cause? (Expression.ofCondition m c) = c.checks.findSome? (Check.fault? demands m) := by
  rw [Condition.findSome?_checks, Expression.ofCondition]
  cases known : OperatorForm.of? c.operator with
  | none =>
      simp only [demands, if_pos (of?_eq_none_iff.mp known)]
      rfl
  | some form =>
      have writable : c.operator ∉ unwritableOperators := fun unwritable => by
        cases known.symm.trans (of?_eq_none_iff.mpr unwritable)
      simp only [demands, if_neg writable, known]
      cases m.lookup c.attributeName with
      | error cause => rfl
      | ok a =>
          by_cases counted : form.arity.accepts c.values.length
          · simp only [Option.map_some, Option.getD_some, counted, if_true]
            exact cause?_ofForm ((OperatorForm.isCoherent known).isMetBy counted)
          · simp only [Option.map_some, Option.getD_some, counted]
            rfl

/-- The selection of the options fails for the first name that is unknown; the identifier is not
looked up. -/
theorem cause?_selectOf (m : EntityMetadata) (columnSet : ColumnSet) :
    cause? (selectOf m columnSet) =
      (columnSet.checks []).findSome? (Check.fault? demands m) := by
  rw [selectOf, ColumnSet.checks, List.append_nil]
  split_ifs
  · rw [m.cause?_projection demands]
  · rfl

theorem cause?_orderOf (m : EntityMetadata) (orders : List Order) :
    cause? (orderOf m orders) =
      (orders.map Order.check).findSome? (Check.fault? demands m) := by
  rw [orderOf, cause?_map, m.cause?_ordering demands]

/-- The filter tree of the options fails for the first of its checks that fails. -/
theorem cause?_filterOf (m : EntityMetadata) (g : FilterGroup) :
    cause? (filterOf m g) = g.checks.findSome? (Check.fault? demands m) := by
  rw [filterOf, cause?_map]
  exact FilterDialect.cause?_root (cause?_ofCondition m) g

/-- Options are refused for the first check of the query that fails, and for no other reason. -/
theorem cause?_ofQuery (m : EntityMetadata) (q : Query) : cause? (Options.ofQuery m q) =
    (q.checks []).findSome? (Check.fault? demands m) := by
  have first : cause? (Options.ofQuery m q) = (cause? (selectOf m q.columnSet)).or
      ((cause? (orderOf m q.orders)).or (cause? (filterOf m q.criteria))) :=
    cause?_bind (fun _ => cause?_bind (fun _ => cause?_bind_pure _ _) _) _
  rw [first, cause?_selectOf, cause?_orderOf, cause?_filterOf, Query.checks,
    List.findSome?_append, List.findSome?_append, Option.or_assoc]

end OData

/-- Both compilers accept a query if and only if none of its checks fails, and otherwise reject it
for the first one that does, in the order of `Query.checks`. Where only some columns are asked for,
a statement has the identifier looked up as one more column; that aside, the two go through the
same checks, and differ in what they demand of a condition. -/
theorem ofQuery_decidedBy (m : EntityMetadata) (q : Query) :
    DecidedBy (Check.fault? Sql.demands m) (q.checks [m.primaryIdAttribute])
      (Sql.Select.ofQuery m q) ∧
    DecidedBy (Check.fault? OData.demands m) (q.checks []) (OData.Options.ofQuery m q) :=
  ⟨decidedBy_of_cause? (Sql.cause?_ofQuery m q), decidedBy_of_cause? (OData.cause?_ofQuery m q)⟩

/-- A filter of two conditions that cannot be compiled and a group with an unknown operator, which
is wrapped in a group whose own operator is not looked at. -/
def FilterGroup.faulty : FilterGroup :=
  ⟨.unrecognized "Xor", [.group .or [
    .condition ⟨"writer", .like, [.string "Mann"]⟩, .group (.unrecognized "Nor") [],
    .condition ⟨"total", .greaterThan, [.string "many", .json (.array [])]⟩]]⟩

-- The document store cannot compare by the first operator, and the remote service can, so it comes
-- to the name.
example : Sql.Select.ofQuery orderEntity { entity := "order", criteria := .faulty } =
      .error (.unsupportedOperator .like) ∧
    OData.Options.ofQuery orderEntity { entity := "order", criteria := .faulty } =
      .error (.unknownAttribute ⟨"order", "writer"⟩) :=
  ⟨rfl, rfl⟩

end EntityGateway
