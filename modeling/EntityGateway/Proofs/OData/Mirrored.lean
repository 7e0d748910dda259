import EntityGateway.Proofs.OData.Compiled

/-!
# Operators and their negations

The table of the operators lists an operator and its negation apart from each other. This module
says that the entries fit: a negated search compiles to the negation of the search, a negated list
to the same call under its own name, and the two comparisons with null to what the comparisons with
a null value compile to (`Expression.ofCondition_mirrored`). Where one of the two conditions is
rejected the other is rejected for the same cause, and if the cause is the number of values, each
names its own operator (`Mirrored`).
-/

namespace EntityGateway

/-- The condition was rejected for the number of its values. -/
def CompileError.isMiscount : CompileError → Bool
  | unexpectedValueCount .. => true
  | _ => false

namespace OData

/-- The searches and what negates each. -/
def negatedSearches : List (ConditionOperator × ConditionOperator) :=
  [(.like, .notLike), (.contains, .doesNotContain), (.beginsWith, .doesNotBeginWith),
    (.endsWith, .doesNotEndWith)]

/-- The operators that take a list, and what negates each. -/
def negatedLists : List (ConditionOperator × ConditionOperator) :=
  [(.isIn, .notIn), (.between, .notBetween)]

/-- What becomes of two conditions that differ in their operators alone. -/
inductive Mirrored (R : Expression → Expression → Prop) (operator operator' : ConditionOperator) :
    Except CompileError Expression → Except CompileError Expression → Prop
  | compiled {e e' : Expression} : R e e' → Mirrored R operator operator' (.ok e) (.ok e')
  /-- Both are rejected for a cause that has nothing to do with the operator. -/
  | rejected {cause : CompileError} : cause.isMiscount = false →
    Mirrored R operator operator' (.error cause) (.error cause)
  /-- Both have a number of values that neither operator takes. -/
  | miscounted (expected : Arity) (found : Nat) :
    Mirrored R operator operator' (.error (.unexpectedValueCount operator expected found))
      (.error (.unexpectedValueCount operator' expected found))

/-! ## What is rejected for other causes -/

/-- The computation does not fail for a number of values. -/
def CountsNothing {α : Type} (x : Except CompileError α) : Prop :=
  ∀ cause, x = .error cause → cause.isMiscount = false

variable {α : Type} {R : Expression → Expression → Prop} {operator operator' : ConditionOperator}

theorem countsNothing_lookup (m : EntityMetadata) (name : String) :
    CountsNothing (m.lookup name) := by
  unfold CountsNothing EntityMetadata.lookup
  cases m.attributeNamed name <;> rintro cause ⟨⟩
  rfl

theorem countsNothing_searchText (a : AttributeMetadata) (v : Value) :
    CountsNothing (searchText a v) := by
  unfold CountsNothing searchText
  split <;> rintro cause ⟨⟩
  rfl

theorem countsNothing_ofPattern (text : String) :
    CountsNothing (StringFunction.ofPattern text) := by
  unfold CountsNothing StringFunction.ofPattern
  split <;> rintro cause ⟨⟩
  rfl

theorem countsNothing_ofItem (a : AttributeMetadata) (v : Value) :
    CountsNothing (Literal.ofItem a v) := by
  unfold CountsNothing Literal.ofItem Literal.orMismatch
  split <;> rintro cause ⟨⟩
  rfl

theorem CountsNothing.mapM {β : Type} {f : α → Except CompileError β} {as : List α}
    (each : ∀ a, CountsNothing (f a)) : CountsNothing (as.mapM f) := by
  intro cause failed
  obtain ⟨index, ⟨a, -, fails⟩, -⟩ := firstFailure_of_mapM_eq_error failed
  exact each a cause fails

/-- Conditions that read the same values first go on alike. -/
theorem Mirrored.bind {x : Except CompileError α} {f g : α → Except CompileError Expression}
    (counts : CountsNothing x) (goOn : ∀ a, Mirrored R operator operator' (f a) (g a)) :
    Mirrored R operator operator' (x >>= f) (x >>= g) := by
  cases x with
  | error cause => exact .rejected (counts cause rfl)
  | ok a => exact goOn a

/-- If one of two mirrored conditions is compiled, so is the other. -/
theorem Mirrored.exists_of_ok {e : Expression} {x : Except CompileError Expression}
    (mirrored : Mirrored R operator operator' (.ok e) x) : ∃ e', x = .ok e' ∧ R e e' := by
  cases mirrored with
  | compiled related => exact ⟨_, rfl, related⟩

/-- Two mirrored conditions are rejected for the number of their values alike, each by its own
operator. -/
theorem Mirrored.eq_of_miscount {expected : Arity} {found : Nat}
    {x : Except CompileError Expression}
    (mirrored : Mirrored R operator operator'
      (.error (.unexpectedValueCount operator expected found)) x) :
    x = .error (.unexpectedValueCount operator' expected found) := by
  cases mirrored with
  | rejected other => cases other
  | miscounted => rfl

/-! ## Forms -/

namespace Expression

/-- One is a search, and the other is its negation. -/
def IsNegatedSearch (e e' : Expression) : Prop :=
  ∃ function property text, e = .search function property (.string text) ∧ e' = .not e

/-- Two calls with the same arguments, each of the function of its operator. -/
def AreCallsOf (operator operator' : ConditionOperator) (e e' : Expression) : Prop :=
  ∃ property items, e = .call operator.name property (.list items) ∧
    e' = .call operator'.name property (.list items)

/-- One is a comparison with null, and the other is the opposite one. -/
def AreNullChecks (e e' : Expression) : Prop :=
  ∃ property, e = .compare property .equal .null ∧ e' = .compare property .notEqual .null

variable (a : AttributeMetadata) (name : String) (values : List Value)

/-- A pattern decides on a search without regard to its negation. -/
theorem mirrored_pattern :
    Mirrored IsNegatedSearch operator operator'
      (ofForm a ⟨name, operator, values⟩ (.pattern false))
      (ofForm a ⟨name, operator', values⟩ (.pattern true)) := by
  match values with
  | [v] =>
      refine .bind (countsNothing_searchText a v) fun text => ?_
      refine .bind (countsNothing_ofPattern text) fun function => ?_
      exact .compiled ⟨function, a.externalName, text, rfl, rfl⟩
  | [] | _ :: _ :: _ => exact .miscounted _ _

theorem mirrored_search (function : StringFunction) :
    Mirrored IsNegatedSearch operator operator'
      (ofForm a ⟨name, operator, values⟩ (.search function false))
      (ofForm a ⟨name, operator', values⟩ (.search function true)) := by
  match values with
  | [v] =>
      refine .bind (countsNothing_searchText a v) fun text => ?_
      exact .compiled ⟨function, a.externalName, text, rfl, rfl⟩
  | [] | _ :: _ :: _ => exact .miscounted _ _

/-- The function that is called has no say in its arguments. -/
theorem mirrored_callList (arity : Arity) :
    Mirrored (AreCallsOf operator operator') operator operator'
      (ofForm a ⟨name, operator, values⟩ (.callList arity))
      (ofForm a ⟨name, operator', values⟩ (.callList arity)) := by
  refine .bind (.mapM (countsNothing_ofItem a)) fun items => ?_
  exact .compiled ⟨a.externalName, items, rfl, rfl⟩

/-- A check for null looks at no value. -/
theorem mirrored_nullCheck :
    Mirrored AreNullChecks operator operator'
      (ofForm a ⟨name, operator, values⟩ (.nullCheck false))
      (ofForm a ⟨name, operator', values⟩ (.nullCheck true)) :=
  .compiled ⟨a.externalName, rfl, rfl⟩

/-- Two operators that take as many values are compiled alike if their forms are. -/
theorem mirrored_of_forms {form form' : OperatorForm} (m : EntityMetadata)
    (known : OperatorForm.of? operator = some form)
    (known' : OperatorForm.of? operator' = some form') (sameArity : form.arity = form'.arity)
    (forms : ∀ a, Mirrored R operator operator' (ofForm a ⟨name, operator, values⟩ form)
      (ofForm a ⟨name, operator', values⟩ form')) :
    Mirrored R operator operator' (ofCondition m ⟨name, operator, values⟩)
      (ofCondition m ⟨name, operator', values⟩) := by
  simp only [ofCondition, known, known', ← sameArity]
  cases found : m.lookup name with
  | error cause => exact .rejected (countsNothing_lookup m name cause found)
  | ok a =>
      by_cases counted : form.arity.accepts values.length = true
      · simp only [if_pos counted]
        exact forms a
      · simp only [if_neg counted]
        exact .miscounted _ _

/-! ## Conditions -/

variable (m : EntityMetadata)

/-- Each search and its negation are rows of the table that differ in the negation only. -/
theorem mirrored_of_mem_negatedSearches {pair : ConditionOperator × ConditionOperator}
    (member : pair ∈ negatedSearches) :
    Mirrored IsNegatedSearch pair.1 pair.2 (ofCondition m ⟨name, pair.1, values⟩)
      (ofCondition m ⟨name, pair.2, values⟩) := by
  simp only [negatedSearches, List.mem_cons, List.not_mem_nil, or_false] at member
  rcases member with rfl | rfl | rfl | rfl
  · exact mirrored_of_forms name values m rfl rfl rfl fun a => mirrored_pattern a name values
  all_goals
    exact mirrored_of_forms name values m rfl rfl rfl fun a => mirrored_search a name values _

/-- Each operator with a list and its negation are rows of the table with one form. -/
theorem mirrored_of_mem_negatedLists {pair : ConditionOperator × ConditionOperator}
    (member : pair ∈ negatedLists) :
    Mirrored (AreCallsOf pair.1 pair.2) pair.1 pair.2 (ofCondition m ⟨name, pair.1, values⟩)
      (ofCondition m ⟨name, pair.2, values⟩) := by
  simp only [negatedLists, List.mem_cons, List.not_mem_nil, or_false] at member
  rcases member with rfl | rfl
  all_goals
    exact mirrored_of_forms name values m rfl rfl rfl fun a => mirrored_callList a name values _

/-- A comparison with null needs no value, and is the same as one with a null value. -/
theorem ofCondition_null :
    ofCondition m ⟨name, .null, values⟩ = ofCondition m ⟨name, .equal, [.null]⟩ ∧
      ofCondition m ⟨name, .notNull, values⟩ = ofCondition m ⟨name, .notEqual, [.null]⟩ := by
  simp only [ofCondition]
  cases m.lookup name with
  | error cause => exact ⟨rfl, rfl⟩
  | ok a => exact ⟨rfl, rfl⟩

/-- For every attribute and all values, a negated search is compiled if the search is, and to its
negation; a negated list is compiled if the list is, and to the call with the same arguments; and if
one is rejected so is the other, for one cause. The comparisons with null are compiled for the same
attributes, and each as the comparison with a null value is. -/
theorem ofCondition_mirrored :
    (∀ pair ∈ negatedSearches,
      Mirrored IsNegatedSearch pair.1 pair.2 (ofCondition m ⟨name, pair.1, values⟩)
        (ofCondition m ⟨name, pair.2, values⟩)) ∧
    (∀ pair ∈ negatedLists,
      Mirrored (AreCallsOf pair.1 pair.2) pair.1 pair.2 (ofCondition m ⟨name, pair.1, values⟩)
        (ofCondition m ⟨name, pair.2, values⟩)) ∧
    Mirrored AreNullChecks .null .notNull (ofCondition m ⟨name, .null, values⟩)
      (ofCondition m ⟨name, .notNull, values⟩) ∧
    ofCondition m ⟨name, .null, values⟩ = ofCondition m ⟨name, .equal, [.null]⟩ ∧
    ofCondition m ⟨name, .notNull, values⟩ = ofCondition m ⟨name, .notEqual, [.null]⟩ :=
  ⟨fun _ => mirrored_of_mem_negatedSearches name values m,
    fun _ => mirrored_of_mem_negatedLists name values m,
    mirrored_of_forms name values m rfl rfl rfl fun a => mirrored_nullCheck a name values,
    ofCondition_null name values m⟩

/-- A text with a marker and a negation in it, which is one value where two are asked for. -/
theorem ofCondition_mirrored_wordyEntity :
    let values : List Value := [.string "% or not contains(text, 'x')"]
    (.like, .notLike) ∈ negatedSearches ∧ (.between, .notBetween) ∈ negatedLists ∧
      (∃ e, ofCondition wordyEntity ⟨"text", .like, values⟩ = .ok e ∧
        ofCondition wordyEntity ⟨"text", .notLike, values⟩ = .ok (.not e)) ∧
      ofCondition wordyEntity ⟨"text", .between, values⟩ =
        .error (.unexpectedValueCount .between (.exactly 2) 1) ∧
      ofCondition wordyEntity ⟨"text", .notBetween, values⟩ =
        .error (.unexpectedValueCount .notBetween (.exactly 2) 1) := by
  intro values
  have search : (.like, .notLike) ∈ negatedSearches := by decide
  have list : (.between, .notBetween) ∈ negatedLists := by decide
  obtain ⟨searches, lists, -⟩ := ofCondition_mirrored "text" values wordyEntity
  obtain ⟨e, like⟩ : ∃ e, ofCondition wordyEntity ⟨"text", .like, values⟩ = .ok e := ⟨_, rfl⟩
  have between : ofCondition wordyEntity ⟨"text", .between, values⟩ =
      .error (.unexpectedValueCount .between (.exactly 2) 1) := rfl
  have notLike := searches _ search
  rw [like] at notLike
  obtain ⟨_, negated, _, _, _, -, rfl⟩ := notLike.exists_of_ok
  have notBetween := lists _ list
  rw [between] at notBetween
  exact ⟨search, list, ⟨e, like, negated⟩, between, notBetween.eq_of_miscount⟩

end Expression

end OData

end EntityGateway
