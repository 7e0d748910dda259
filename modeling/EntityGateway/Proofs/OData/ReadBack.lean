import EntityGateway.Proofs.OData.ReadAtoms

/-!
# Reading filters back

The reader of filters undoes their writer, for filters of the form that `Expression.Readable`
describes. The law of whole filters is `Expression.Readable.readFilter?_text`; it rests on one for
the further terms of a group, and on what precedence makes of terms with one connective between
them.
-/

namespace EntityGateway.OData

open Text

/-! ## Terms -/

/-- The filter has a text by which it can be read: its properties are identifiers, what it writes
without quotes is bare text, and it negates nothing but searches. -/
inductive Expression.Readable : Expression → Prop
  | compare {property : String} (comparison : Comparison) {value : Literal} :
    isIdentifier property = true → value.Readable →
    Expression.Readable (.compare property comparison value)
  | search (function : StringFunction) {property : String} {value : Literal} :
    isIdentifier property = true → value.Readable →
    Expression.Readable (.search function property value)
  | notSearch (function : StringFunction) {property : String} {value : Literal} :
    isIdentifier property = true → value.Readable →
    Expression.Readable (.not (.search function property value))
  | call {function : String} (property : String) {arguments : Arguments} :
    (∀ c ∈ function.toList, (c != '(') = true) → arguments.Readable →
    Expression.Readable (.call function property arguments)
  | all {items : List Expression} :
    (∀ e ∈ items, Expression.Readable e) → Expression.Readable (.all items)
  | any {items : List Expression} :
    (∀ e ∈ items, Expression.Readable e) → Expression.Readable (.any items)

/-- The filter is read back from its text, in front of every text that can follow a term. -/
def Expression.ReadsBack (e : Expression) : Prop :=
  ∀ fuel rest, e.chars.length ≤ fuel → Follows rest →
    readTerm? fuel (e.chars ++ rest) = some (e.asRead, rest)

theorem Expression.ReadsBack.of_succ {e : Expression} (visible : e.chars ≠ [])
    (reads : ∀ fuel rest, e.chars.length ≤ fuel + 1 → Follows rest →
      readTerm? (fuel + 1) (e.chars ++ rest) = some (e.asRead, rest)) : e.ReadsBack := by
  intro fuel rest enough follows
  have some : 0 < e.chars.length := List.length_pos_iff.mpr visible
  obtain ⟨fuel, rfl⟩ : ∃ n, fuel = n + 1 := ⟨fuel - 1, by omega⟩
  exact reads fuel rest enough follows

/-- A term that holds no other is read back if it is read. -/
theorem Expression.ReadsBack.atom {e : Expression} (visible : e.chars ≠ [])
    (told : e.asRead = e)
    (read : ∀ rest, Follows rest → readAtom? (e.chars ++ rest) = some (e, rest)) :
    e.ReadsBack := by
  refine .of_succ visible fun fuel rest _ follows => ?_
  rw [readTerm?, read rest follows, told]

/-- A negated search is read back: nothing but a search stands behind `not`. -/
theorem Expression.ReadsBack.notSearch (function : StringFunction) {property : String}
    (identifier : isIdentifier property = true) {value : Literal} (readable : value.Readable) :
    Expression.ReadsBack (.not (.search function property value)) := by
  have text : (Expression.not (.search function property value)).chars =
      "not ".toList ++ (Expression.search function property value).chars := by rw [chars]
  refine .of_succ (by simp [text]) fun fuel rest enough follows => ?_
  rw [text, List.length_append] at enough
  obtain ⟨fuel, rfl⟩ : ∃ n, fuel = n + 1 := by
    have four : "not ".toList.length = 4 := rfl
    exact ⟨fuel - 1, by omega⟩
  have inner : readTerm? (fuel + 1)
      ((Expression.search function property value).chars ++ rest) =
        some (.search function property value, rest) := by
    rw [readTerm?, readAtom?_search function identifier readable rest]
  -- a property may be called `not`, and only the search behind the word tells the two apart
  rw [text, List.append_assoc, readTerm?, readAtom?_not, isPrefixOf?_append]
  exact Option.bind_eq_some_iff.mpr ⟨_, inner, rfl⟩

/-- A connective is read with the blanks around it. -/
theorem readConnective?_append (connective : Connective) (rest : List Char) :
    readConnective? (connective.chars ++ rest) = some (connective, rest) := by
  cases connective with
  | and => rw [readConnective?, isPrefixOf?_append]
  | or =>
      have notAnd : Apart Connective.and.chars Connective.or.chars := by decide
      rw [readConnective?, isPrefixOf?_of_apart notAnd, isPrefixOf?_append]
      rfl

theorem readConnective?_close (rest : List Char) : readConnective? (')' :: rest) = none := by
  have notAnd : Apart Connective.and.chars [')'] := by decide
  have notOr : Apart Connective.or.chars [')'] := by decide
  rw [← List.singleton_append, readConnective?, isPrefixOf?_of_apart notAnd,
    isPrefixOf?_of_apart notOr]
  rfl

/-- What is left of a group behind an item follows that item. -/
theorem follows_joined (connective : Connective) (items : List Expression) (rest : List Char) :
    Follows (Expression.joined connective.chars items ++ rest) := by
  cases items with
  | nil => exact .close rest
  | cons first others =>
      rw [Expression.joined, List.append_assoc, List.append_assoc]
      exact .link connective _

/-- The further items of a group are read back up to the closing parenthesis. -/
theorem readLinks?_joined (connective : Connective) {items : List Expression}
    (readBack : ∀ e ∈ items, e.ReadsBack) (rest : List Char) {fuel : Nat}
    (enough : (Expression.joined connective.chars items).length ≤ fuel) :
    readLinks? fuel (Expression.joined connective.chars items ++ rest) =
      some (items.map fun e => (connective, e.asRead), ')' :: rest) := by
  induction items generalizing fuel with
  | nil =>
      obtain ⟨fuel, rfl⟩ := Nat.exists_eq_add_of_le' enough
      rw [Expression.joined, List.singleton_append, List.length_singleton, readLinks?,
        readConnective?_close]
      rfl
  | cons first others ih =>
      rw [Expression.joined, List.length_append, List.length_append] at enough
      have visible : 0 < connective.chars.length := by cases connective <;> decide
      obtain ⟨fuel, rfl⟩ : ∃ n, fuel = n + 1 := ⟨fuel - 1, by omega⟩
      have firstRead := readBack first List.mem_cons_self fuel _ (by omega)
        (follows_joined connective others rest)
      have othersRead : readLinks? fuel (Expression.joined connective.chars others ++ rest) =
          some (others.map fun e => (connective, e.asRead), ')' :: rest) :=
        ih (fun e member => readBack e (List.mem_cons_of_mem first member)) (by omega)
      rw [Expression.joined, List.append_assoc, List.append_assoc, readLinks?,
        readConnective?_append]
      refine Option.bind_eq_some_iff.mpr ⟨_, firstRead, ?_⟩
      exact Option.bind_eq_some_iff.mpr ⟨_, othersRead, rfl⟩

/-- A parenthesis opens a group, which reaches to the end of the joined items. -/
theorem readTerm?_group (connective : Connective) {first : Expression} {others : List Expression}
    (readBack : ∀ e ∈ first :: others, e.ReadsBack) (rest : List Char) {fuel : Nat}
    (enough : first.chars.length + (Expression.joined connective.chars others).length ≤ fuel) :
    readTerm? (fuel + 1)
        ('(' :: first.chars ++ Expression.joined connective.chars others ++ rest) =
      some (.ofTerms first.asRead (others.map fun e => (connective, e.asRead)), rest) := by
  have firstRead := readBack first List.mem_cons_self fuel _ (by omega)
    (follows_joined connective others rest)
  have othersRead : readLinks? fuel (Expression.joined connective.chars others ++ rest) =
      some (others.map fun e => (connective, e.asRead), ')' :: rest) :=
    readLinks?_joined connective
      (fun e member => readBack e (List.mem_cons_of_mem first member)) rest (by omega)
  have notNegation : Apart "not ".toList ['('] := by decide
  rw [List.cons_append, List.cons_append, List.append_assoc, ← List.singleton_append, readTerm?,
    readAtom?_group, isPrefixOf?_of_apart notNegation]
  refine Option.bind_eq_some_iff.mpr ⟨_, isPrefixOf?_append ['('] _, ?_⟩
  refine Option.bind_eq_some_iff.mpr ⟨_, firstRead, ?_⟩
  refine Option.bind_eq_some_iff.mpr ⟨_, othersRead, ?_⟩
  exact Option.bind_eq_some_iff.mpr ⟨_, isPrefixOf?_append [')'] rest, rfl⟩

/-! ## Precedence -/

/-- Terms joined by `and` are one run. -/
theorem Expression.runs_and (first : Expression) (others : List Expression) :
    runs first (others.map fun e => (.and, e)) = [first :: others] := by
  induction others generalizing first with
  | nil => rfl
  | cons second others ih => rw [List.map_cons, runs, ih]

/-- Terms joined by `or` are runs of one term each. -/
theorem Expression.runs_or (first : Expression) (others : List Expression) :
    runs first (others.map fun e => (.or, e)) = [first] :: others.map fun e => [e] := by
  induction others generalizing first with
  | nil => rfl
  | cons second others ih => rw [List.map_cons, runs, ih, List.map_cons]

theorem Expression.ofTerms_and (first : Expression) (others : List Expression) :
    ofTerms first (others.map fun e => (.and, e)) = .all (first :: others) := by
  rw [ofTerms, runs_and]

theorem Expression.ofTerms_or (first : Expression) (others : List Expression) :
    ofTerms first (others.map fun e => (.or, e)) = anyOf (first :: others) := by
  rw [ofTerms, runs_or]
  cases others with
  | nil => rfl
  | cons second others =>
      have alone : (others.map fun e => [e]).map ofRun = others := by
        rw [List.map_map]
        exact List.map_id others
      simp only [List.map_cons, alone, ofRun, anyOf]

theorem Expression.chars_all (first : Expression) (others : List Expression) :
    (all (first :: others)).chars = '(' :: first.chars ++ joined Connective.and.chars others := by
  rw [chars, Connective.chars]

theorem Expression.chars_any (first : Expression) (others : List Expression) :
    (any (first :: others)).chars = '(' :: first.chars ++ joined Connective.or.chars others := by
  rw [chars, Connective.chars]

/-- A group joined by And is read back if its items are; without items it is the word `true`. -/
theorem Expression.ReadsBack.all {items : List Expression}
    (readBack : ∀ e ∈ items, e.ReadsBack) : Expression.ReadsBack (.all items) := by
  cases items with
  | nil => exact .atom (by simp [chars, Literal.chars]) rfl fun rest => readAtom?_all_nil
  | cons first others =>
      refine .of_succ (by simp [chars_all]) fun fuel rest enough _ => ?_
      rw [chars_all, List.length_append, List.length_cons] at enough
      have told : others.map (fun e => (Connective.and, e.asRead)) =
          (others.map asRead).map fun e => (Connective.and, e) := by rw [List.map_map]; rfl
      rw [chars_all, readTerm?_group .and readBack rest (by omega), told, ofTerms_and, asRead,
        itemsAsRead_eq_map, List.map_cons]

/-- A group joined by Or is read back if its items are. Precedence leaves it as it is, since each
item that joins terms has parentheses of its own. -/
theorem Expression.ReadsBack.any {items : List Expression}
    (readBack : ∀ e ∈ items, e.ReadsBack) : Expression.ReadsBack (.any items) := by
  cases items with
  | nil => exact .atom (by simp [chars, Literal.chars]) rfl fun rest => readAtom?_any_nil
  | cons first others =>
      refine .of_succ (by simp [chars_any]) fun fuel rest enough _ => ?_
      rw [chars_any, List.length_append, List.length_cons] at enough
      have told : others.map (fun e => (Connective.or, e.asRead)) =
          (others.map asRead).map fun e => (Connective.or, e) := by rw [List.map_map]; rfl
      rw [chars_any, readTerm?_group .or readBack rest (by omega), told, ofTerms_or, asRead,
        itemsAsRead_eq_map, List.map_cons]

/-- Every readable filter is read back. -/
theorem Expression.Readable.readsBack {e : Expression} (readable : e.Readable) : e.ReadsBack := by
  induction readable with
  | @compare property comparison value identifier readable =>
      refine .atom ?_ (by rw [asRead]) fun rest =>
        readAtom?_compare identifier comparison readable
      simp [chars]
  | @search function property value identifier readable =>
      refine .atom ?_ (by rw [asRead]) fun rest _ =>
        readAtom?_search function identifier readable rest
      simp [chars]
  | notSearch function identifier readable => exact .notSearch function identifier readable
  | @call function property arguments named readable =>
      refine .atom ?_ (by rw [asRead]) fun rest _ => readAtom?_call named property readable rest
      simp [chars]
  | all _ ih => exact .all ih
  | any _ ih => exact .any ih

/-- A readable filter is read back from its text. -/
theorem Expression.Readable.readFilter?_text {e : Expression} (readable : e.Readable) :
    readFilter? e.text = some e.asRead := by
  have first := readable.readsBack e.chars.length [] (Nat.le_refl _) .nothing
  rw [List.append_nil] at first
  rw [readFilter?, text, String.toList_ofList]
  refine Option.bind_eq_some_iff.mpr ⟨_, first, ?_⟩
  exact Option.bind_eq_some_iff.mpr ⟨([], []), rfl, rfl⟩

end EntityGateway.OData
