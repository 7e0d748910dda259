import EntityGateway.OData.Compile
import EntityGateway.Proofs.OData.Compiled

/-!
# The values of a condition

How a condition is written decides at which positions its values are read, and the table of the
operators says, apart from that, how many values there must be. The two fit
(`OperatorForm.isCoherent`): a condition that was counted has a value at every position that is
read, and, unless it is written without values, none at any other. So compiling can as well read
the values by position (`Expression.readCondition`), and the literals in what it compiles to stand
one by one beside the values of the condition.
-/

namespace EntityGateway.OData

/-! ## The table of the operators -/

/-- The number of values that is asked for is the number that is read. A list is read as a whole,
and what is written without values reads none. -/
def OperatorForm.IsCoherent (form : OperatorForm) : Prop :=
  match form.form with
  | .comparison _ | .pattern _ | .search _ _ | .callSingle => form.arity = .exactly 1
  | .callPair => form.arity = .exactly 2
  | .callList | .nullCheck _ | .callNone => True

theorem OperatorForm.isCoherent {operator : ConditionOperator} {form : OperatorForm}
    (known : of? operator = some form) : form.IsCoherent := by
  cases operator <;> cases known <;> first | rfl | trivial

/-- There is a value at every position that a form reads, and at no other. -/
def ConditionForm.IsMetBy (values : List Value) : ConditionForm → Prop
  | .comparison _ | .pattern _ | .search _ _ | .callSingle => ∃ v, values = [v]
  | .callPair => ∃ v w, values = [v, w]
  | .callList | .nullCheck _ | .callNone => True

/-- Counting the values is enough to read them. -/
theorem OperatorForm.IsCoherent.isMetBy {form : OperatorForm} {values : List Value}
    (coherent : form.IsCoherent) (counted : form.arity.accepts values.length) :
    form.form.IsMetBy values := by
  have single (one : form.arity = .exactly 1) : ∃ v, values = [v] := by
    rw [one] at counted
    exact List.length_eq_one_iff.mp (of_decide_eq_true counted)
  have pair (two : form.arity = .exactly 2) : ∃ v w, values = [v, w] := by
    rw [two] at counted
    exact List.length_eq_two.mp (of_decide_eq_true counted)
  obtain ⟨written, arity⟩ := form
  cases written with
  | comparison | pattern | search | callSingle => exact single coherent
  | callPair => exact pair coherent
  | callList | nullCheck | callNone => trivial

/-! ## Reading values by position -/

/-- The value of a condition at a position. Outside the list there is no outcome at all. -/
def valueAt (c : Condition) (position : Nat) : ExceptT CompileError Option Value :=
  ExceptT.lift c.values[position]?

section Reading

variable {α β : Type} {c : Condition}

theorem run_valueAt_bind {position : Nat} {v : Value} (found : c.values[position]? = some v)
    (f : Value → ExceptT CompileError Option β) : (valueAt c position >>= f).run = (f v).run := by
  rw [valueAt, found]
  rfl

/-- Outcomes follow one another in the same way whether or not values are read in between. -/
theorem run_lift_bind {f : α → ExceptT CompileError Option β} {g : α → Except CompileError β}
    (same : ∀ a, (f a).run = some (g a)) (x : Except CompileError α) :
    ((liftM x : ExceptT CompileError Option α) >>= f).run = some (x >>= g) := by
  cases x with
  | error cause => rfl
  | ok a => exact same a

end Reading

namespace Expression

/-- Compiles a condition whose values have been counted by reading each value at its position. -/
def readForm (a : AttributeMetadata) (c : Condition) (form : OperatorForm) :
    ExceptT CompileError Option Expression :=
  match form.form with
  | .comparison comparison => do
    let v ← valueAt c 0
    let literal ← Literal.ofComparison a v
    pure (.compare a.externalName comparison literal)
  | .pattern negated => do
    let v ← valueAt c 0
    let text ← searchText a v
    let function ← StringFunction.ofPattern text
    pure (negatedIf negated (.search function a.externalName (.string text)))
  | .search function negated => do
    let v ← valueAt c 0
    let text ← searchText a v
    pure (negatedIf negated (.search function a.externalName (.string text)))
  | .nullCheck negated =>
    pure (.compare a.externalName (if negated then .notEqual else .equal) .null)
  | .callList => do
    let items ← (c.values.mapM (Literal.ofItem a) : Except CompileError (List Literal))
    pure (.call c.operator.name a.externalName (.list items))
  | .callSingle => do
    let v ← valueAt c 0
    let literal ← Literal.ofArgument a v
    pure (.call c.operator.name a.externalName (.single literal))
  | .callNone => pure (.call c.operator.name a.externalName .none)
  | .callPair => do
    let v ← valueAt c 0
    let first ← Literal.ofArgument a v
    let w ← valueAt c 1
    let second ← Literal.ofArgument a w
    pure (.call c.operator.name a.externalName (.pair first second))

/-- Compiles a condition by reading its values by position. -/
def readCondition (m : EntityMetadata) (c : Condition) : ExceptT CompileError Option Expression :=
  match OperatorForm.of? c.operator with
  | none => throw (.operatorNotImplemented c.operator)
  | some form => do
    let a ← m.lookup c.attributeName
    if form.arity.accepts c.values.length then readForm a c form
    else throw (.unexpectedValueCount c.operator form.arity c.values.length)

/-- The values of a condition that was counted are all found. -/
theorem run_readForm {c : Condition} {form : OperatorForm} (met : form.form.IsMetBy c.values)
    (a : AttributeMetadata) : (readForm a c form).run = some (ofForm a c form) := by
  obtain ⟨name, operator, values⟩ := c
  obtain ⟨written, arity⟩ := form
  cases written with
  | comparison comparison =>
      obtain ⟨v, rfl⟩ := met
      exact (run_valueAt_bind rfl _).trans (run_lift_bind (fun _ => rfl) _)
  | pattern negated =>
      obtain ⟨v, rfl⟩ := met
      refine (run_valueAt_bind rfl _).trans (run_lift_bind (fun text => ?_) _)
      exact run_lift_bind (fun _ => rfl) _
  | search function negated =>
      obtain ⟨v, rfl⟩ := met
      exact (run_valueAt_bind rfl _).trans (run_lift_bind (fun _ => rfl) _)
  | nullCheck negated => rfl
  | callList => exact run_lift_bind (fun _ => rfl) _
  | callSingle =>
      obtain ⟨v, rfl⟩ := met
      exact (run_valueAt_bind rfl _).trans (run_lift_bind (fun _ => rfl) _)
  | callNone => rfl
  | callPair =>
      obtain ⟨v, w, rfl⟩ := met
      refine (run_valueAt_bind rfl _).trans (run_lift_bind (fun first => ?_) _)
      exact (run_valueAt_bind rfl _).trans (run_lift_bind (fun _ => rfl) _)

theorem run_readCondition (m : EntityMetadata) (c : Condition) :
    (readCondition m c).run = some (ofCondition m c) := by
  unfold readCondition ofCondition
  cases known : OperatorForm.of? c.operator with
  | none => rfl
  | some form =>
      cases m.lookup c.attributeName with
      | error cause => rfl
      | ok a =>
          by_cases counted : form.arity.accepts c.values.length
          · simp only [counted, if_true]
            exact run_readForm ((OperatorForm.isCoherent known).isMetBy counted) a
          · simp only [counted]
            rfl

/-! ## The literals of an expression -/

mutual

/-- The literals in an expression, in the order in which they are written. -/
def literals : Expression → List Literal
  | .all items => itemLiterals items
  | .any items => itemLiterals items
  | .not item => item.literals
  | .compare _ _ value => [value]
  | .search _ _ value => [value]
  | .call _ _ .none => []
  | .call _ _ (.single value) => [value]
  | .call _ _ (.pair first second) => [first, second]
  | .call _ _ (.list values) => values
  | .literal value => [value]

/-- The literals in some expressions. -/
def itemLiterals : List Expression → List Literal
  | [] => []
  | first :: rest => first.literals ++ itemLiterals rest

end

theorem literals_negatedIf (negated : Bool) (e : Expression) :
    (negatedIf negated e).literals = e.literals := by
  cases negated <;> simp [negatedIf, literals]

end Expression

/-- A condition of the form carries values. The others compare with null, or call a function with
nothing but the property. -/
def ConditionForm.takesValues : ConditionForm → Bool
  | .nullCheck _ | .callNone => false
  | _ => true

/-- What a value becomes in a condition of a form. In a comparison the type of the attribute
decides. A search is for the text of the value. A single argument and a pair of them follow the
value's own kind, and a list holds texts in quotes, and null for null. -/
def ConditionForm.Writes (a : AttributeMetadata) : ConditionForm → Value → Literal → Prop
  | .comparison _, v, literal => Literal.ofComparison a v = .ok literal
  | .pattern _, v, literal | .search _ _, v, literal =>
    ∃ text, v.text? = some text ∧ literal = .string text
  | .callSingle, v, literal | .callPair, v, literal => Literal.ofOwnKind? v = some literal
  | .callList, v, literal =>
    v = .null ∧ literal = .null ∨ ∃ text, v.text? = some text ∧ literal = .string text
  | .nullCheck _, _, _ | .callNone, _, _ => False

theorem text?_of_searchText {a : AttributeMetadata} {v : Value} {text : String}
    (found : searchText a v = .ok text) : v.text? = some text := by
  unfold searchText at found
  split at found
  · rename_i given
    cases found
    exact given
  · cases found

theorem Literal.text?_of_ofItem {a : AttributeMetadata} {v : Value} {literal : Literal}
    (made : ofItem a v = .ok literal) :
    v = .null ∧ literal = .null ∨ ∃ text, v.text? = some text ∧ literal = .string text := by
  have fits := ok_of_orMismatch made
  split at fits
  · rename_i null
    cases fits
    cases v with
    | null => exact .inl ⟨rfl, rfl⟩
    | _ => cases null
  · obtain ⟨text, given, rfl⟩ := Option.map_eq_some_iff.mp fits
    exact .inr ⟨text, given, rfl⟩

namespace Expression

/-- Every value of a condition is written, in the way of the condition's form and in the order of
the values. -/
theorem writes_of_ofForm {a : AttributeMetadata} {c : Condition} {form : OperatorForm}
    {e : Expression} (takes : form.form.takesValues = true) (compiled : ofForm a c form = .ok e) :
    List.Forall₂ (form.form.Writes a) c.values e.literals := by
  unfold ofForm at compiled
  split at compiled
  · rename_i comparison v written single
    obtain ⟨literal, made, compiled⟩ := ok_of_bind_eq_ok compiled
    cases compiled
    rw [written, single]
    exact .cons made .nil
  · rename_i negated v written single
    obtain ⟨text, found, compiled⟩ := ok_of_bind_eq_ok compiled
    obtain ⟨function, -, compiled⟩ := ok_of_bind_eq_ok compiled
    cases compiled
    rw [written, single, literals_negatedIf]
    exact .cons ⟨text, text?_of_searchText found, rfl⟩ .nil
  · rename_i function negated v written single
    obtain ⟨text, found, compiled⟩ := ok_of_bind_eq_ok compiled
    cases compiled
    rw [written, single, literals_negatedIf]
    exact .cons ⟨text, text?_of_searchText found, rfl⟩ .nil
  · rename_i written
    rw [written] at takes
    cases takes
  · rename_i written
    obtain ⟨items, made, compiled⟩ := ok_of_bind_eq_ok compiled
    cases compiled
    rw [written]
    exact (forall₂_of_mapM_eq_ok made).imp fun _ _ => Literal.text?_of_ofItem
  · rename_i v written single
    obtain ⟨literal, made, compiled⟩ := ok_of_bind_eq_ok compiled
    cases compiled
    rw [written, single]
    exact .cons (Literal.ok_of_orMismatch made) .nil
  · rename_i written
    rw [written] at takes
    cases takes
  · rename_i v w written pair
    obtain ⟨first, madeFirst, compiled⟩ := ok_of_bind_eq_ok compiled
    obtain ⟨second, madeSecond, compiled⟩ := ok_of_bind_eq_ok compiled
    cases compiled
    rw [written, pair]
    exact .cons (Literal.ok_of_orMismatch madeFirst)
      (.cons (Literal.ok_of_orMismatch madeSecond) .nil)
  · cases compiled

/-- Compiling a condition, with whatever operator and values, never looks for a value outside the
list of them, as it has the same outcome when values are read by position. And it leaves none out:
the literals in the expression are those of the values, one by one and in their order, unless the
operator is one that is written without values. -/
theorem writes_of_ofCondition (m : EntityMetadata) (c : Condition) :
    (readCondition m c).run = some (ofCondition m c) ∧
    ∀ form e, OperatorForm.of? c.operator = some form → form.form.takesValues = true →
      ofCondition m c = .ok e →
      ∃ a, m.lookup c.attributeName = .ok a ∧
        List.Forall₂ (form.form.Writes a) c.values e.literals := by
  refine ⟨run_readCondition m c, fun form e known takes compiled => ?_⟩
  rw [ofCondition, known] at compiled
  cases found : m.lookup c.attributeName with
  | error cause =>
      rw [found] at compiled
      cases compiled
  | ok a =>
      simp only [found] at compiled
      split at compiled
      · exact ⟨a, rfl, writes_of_ofForm takes compiled⟩
      · cases compiled

theorem writes_of_ofCondition_listed :
    let c : Condition := ⟨"text", .isIn, [.string "x',y", .null, .integer (-3)]⟩
    ∃ form e, OperatorForm.of? c.operator = some form ∧ form.form.takesValues = true ∧
      ofCondition wordyEntity c = .ok e ∧
      (readCondition wordyEntity c).run = some (ofCondition wordyEntity c) ∧
      (∃ a, wordyEntity.lookup c.attributeName = .ok a ∧
        List.Forall₂ (form.form.Writes a) c.values e.literals) ∧
      e.literals = [.string "x',y", .null, .string "-3"] := by
  intro c
  obtain ⟨read, written⟩ := writes_of_ofCondition wordyEntity c
  exact ⟨_, _, rfl, rfl, rfl, read, written _ _ rfl rfl rfl, by decide⟩

end Expression

end EntityGateway.OData
