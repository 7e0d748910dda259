import EntityGateway.Proofs.Sql.Reader

/-!
# Reading selections back

The reader of statements undoes their writer. Each part of the reader has a law: in front of every
rest by which the part ends, it reads the text of the part as the part, and hands back the rest. The
laws hold of all names and strings; what they ask for is that numbers are written as numbers are,
that properties stand under the one alias, and that conditions have the form that `Readable`
describes. The law of whole statements is `Select.Readable.readSelect?_text`.
-/

namespace EntityGateway.Sql

open Text

/-! ## Names, comparisons and literals -/

/-- A property under the alias is read back, bare or in brackets. -/
theorem readColumn?_chars {column : Column} (aliased : column.table = defaultAlias)
    {rest : List Char} (stops : NoneAhead isNamePart rest) :
    readColumn? (column.chars ++ rest) = some (column, rest) := by
  obtain ⟨table, name⟩ := column
  obtain rfl : table = defaultAlias := aliased
  have aliasRead (cs : List Char) :
      readColumn? (defaultAlias.toList ++ cs) =
        (readName? cs).map fun read => (⟨defaultAlias, read.1⟩, read.2) := by
    simp only [readColumn?, isPrefixOf?_append, Option.bind_eq_bind, Option.bind_some]
    cases readName? cs <;> rfl
  simp only [Column.chars, propertyChars]
  split
  · rename_i plain
    have name := scanWhile_append (isNamePart_of_isIdentifier (isIdentifier_of_isPlain plain)) stops
    simp [aliasRead, readName?, List.isPrefixOf?, name, plain]
  · have body := scanBackslashed_append (by decide : '\\' ≠ '"') name.toList (']' :: rest)
    simp [aliasRead, readName?, List.isPrefixOf?, backslashQuoted, body]

/-- A comparison is read back, also where another begins with the same character. -/
theorem readComparison?_chars (comparison : Comparison) (rest : List Char) :
    readComparison? (comparison.chars ++ rest) = some (comparison, rest) := by
  cases comparison <;>
    simp [readComparison?, Comparison.every, Comparison.chars, List.isPrefixOf?]

/-- The literal has a text by which it can be read: its numbers are written as numbers are. -/
def Literal.Readable : Literal → Prop
  | number text => IsNumeral text.toList
  | double d => d.isFinite = true
  | _ => True

theorem readNumber?_numeral {digits rest : List Char} (numeral : IsNumeral digits)
    (stops : NoneAhead isNumeralPart rest) :
    readNumber? (digits ++ rest) = some (.number (String.ofList digits), rest) := by
  have visible : digits.isEmpty = false := by
    obtain ⟨c, member, -⟩ := numeral.digit
    exact List.isEmpty_eq_false_iff.mpr (List.ne_nil_of_mem member)
  simp [readNumber?, scanWhile_append numeral.parts stops, visible]

/-- A text that begins with a character of numbers begins with no quote and no word. -/
theorem isPrefixOf?_numeral {c : Char} (other : isNumeralPart c = false) (word : List Char)
    {digits : List Char} (numeral : IsNumeral digits) (rest : List Char) :
    (c :: word).isPrefixOf? (digits ++ rest) = none := by
  cases digits with
  | nil => obtain ⟨d, member, -⟩ := numeral.digit; cases member
  | cons d digits =>
      refine isPrefixOf?_cons_of_ne ?_ word (digits ++ rest)
      rintro rfl
      simp [numeral.parts c (by simp)] at other

/-- A numeral is not taken for a word. -/
theorem readLiteral?_numeral {digits rest : List Char} (numeral : IsNumeral digits)
    (stops : NoneAhead isNumeralPart rest) :
    readLiteral? (digits ++ rest) = some (.number (String.ofList digits), rest) := by
  have noWord (c : Char) (other : isNumeralPart c = false) (word : List Char) :=
    isPrefixOf?_numeral other word numeral rest
  have noQuote := noWord '\'' (by decide) []
  have noNull : "null".toList.isPrefixOf? (digits ++ rest) = none :=
    noWord 'n' (by decide) ['u', 'l', 'l']
  have noTrue : "true".toList.isPrefixOf? (digits ++ rest) = none :=
    noWord 't' (by decide) ['r', 'u', 'e']
  have noFalse : "false".toList.isPrefixOf? (digits ++ rest) = none :=
    noWord 'f' (by decide) ['a', 'l', 's', 'e']
  rw [readLiteral?, noQuote, noNull, noTrue, noFalse]
  exact readNumber?_numeral numeral stops

/-- A literal is read as what its text tells, in front of whatever cannot go on a number. -/
theorem readLiteral?_chars {value : Literal} (readable : value.Readable) {rest : List Char}
    (stops : NoneAhead isNumeralPart rest) :
    readLiteral? (value.chars ++ rest) = some (value.asRead, rest) := by
  cases value with
  | null => simp [Literal.chars, readLiteral?, List.isPrefixOf?, Literal.asRead]
  | boolean value =>
      cases value <;> simp [Literal.chars, readLiteral?, List.isPrefixOf?, Literal.asRead]
  | integer n =>
      have numeral := Value.isNumeral_integerText n.toInt
      have chars : (Literal.integer n).chars = (Value.integerText n.toInt).toList := by
        simp [Literal.chars, integerChars, Value.integerText]
      rw [chars, readLiteral?_numeral numeral stops, String.ofList_toList, Literal.asRead]
  | double d =>
      rw [Literal.chars, readLiteral?_numeral (Double.isNumeral_plain readable) stops,
        Literal.asRead]
  | number text =>
      rw [Literal.chars, readLiteral?_numeral readable stops, String.ofList_toList]
      rfl
  | string s =>
      have body := scanBackslashed_append (by decide : '\\' ≠ '\'') s.toList rest
      simp [Literal.chars, backslashQuoted, readLiteral?, List.isPrefixOf?, body, Literal.asRead]

/-! ## Expressions -/

/-- The expression has a text by which it can be read: it is built from truth values and from
comparisons of a property under the alias with a literal. -/
inductive Expression.Readable : Expression → Prop
  | truth (value : Bool) : Expression.Readable (.literal (.boolean value))
  | compare (name : String) (comparison : Comparison) {value : Literal} :
    value.Readable →
    Expression.Readable (.compare (.column ⟨defaultAlias, name⟩) comparison (.literal value))
  | all {items : List Expression} :
    (∀ e ∈ items, Expression.Readable e) → Expression.Readable (.all items)
  | any {items : List Expression} :
    (∀ e ∈ items, Expression.Readable e) → Expression.Readable (.any items)

/-- The expression is read back from its text, in front of every rest by which a number ends. -/
def Expression.ReadsBack (e : Expression) : Prop :=
  ∀ fuel rest, e.chars.length ≤ fuel → NoneAhead isNumeralPart rest →
    readExpression? fuel (e.chars ++ rest) = some (e.asRead, rest)

theorem Expression.ReadsBack.of_succ {e : Expression} (visible : e.chars ≠ [])
    (reads : ∀ fuel rest, e.chars.length ≤ fuel + 1 → NoneAhead isNumeralPart rest →
      readExpression? (fuel + 1) (e.chars ++ rest) = some (e.asRead, rest)) : e.ReadsBack := by
  intro fuel rest enough stops
  have some : 0 < e.chars.length := List.length_pos_iff.mpr visible
  obtain ⟨fuel, rfl⟩ : ∃ n, fuel = n + 1 := ⟨fuel - 1, by omega⟩
  exact reads fuel rest enough stops

theorem Expression.ReadsBack.always : Expression.ReadsBack .always :=
  .of_succ (by simp [Expression.always, chars, Literal.chars]) fun fuel rest _ _ => by
    simp [Expression.always, chars, Literal.chars, readExpression?, List.isPrefixOf?, readTruth?,
      asRead, Literal.asRead]

theorem Expression.ReadsBack.never : Expression.ReadsBack .never :=
  .of_succ (by simp [Expression.never, chars, Literal.chars]) fun fuel rest _ _ => by
    simp [Expression.never, chars, Literal.chars, readExpression?, List.isPrefixOf?, readTruth?,
      asRead, Literal.asRead]

/-- A column begins with the alias, and so with no parenthesis and no truth value. -/
theorem Column.chars_eq_cons {column : Column} (aliased : column.table = defaultAlias) :
    ∃ tail, column.chars = 'a' :: tail := by
  simp only [Column.chars, propertyChars, aliased, defaultAlias]
  split <;> simp

theorem noneAhead_comparison (comparison : Comparison) (cs : List Char) :
    NoneAhead isNamePart (comparison.chars ++ cs) := by
  cases comparison <;> simp [Comparison.chars] <;> decide

/-- A comparison of a property with a literal is read back, whatever the property is called: the
point or bracket behind the alias keeps it from being a word. -/
theorem Expression.ReadsBack.compare (name : String) (comparison : Comparison) {value : Literal}
    (readable : value.Readable) :
    Expression.ReadsBack (.compare (.column ⟨defaultAlias, name⟩) comparison (.literal value)) := by
  obtain ⟨column, column_eq⟩ : ∃ column : Column, column = ⟨defaultAlias, name⟩ := ⟨_, rfl⟩
  have aliased : column.table = defaultAlias := by rw [column_eq]
  rw [← column_eq]
  obtain ⟨tail, begins⟩ := Column.chars_eq_cons aliased
  refine .of_succ (by simp [chars, begins]) fun fuel rest _ stops => ?_
  have columnRead : readColumn? (column.chars ++ (comparison.chars ++ (value.chars ++ rest))) =
      some (column, comparison.chars ++ (value.chars ++ rest)) :=
    readColumn?_chars aliased (noneAhead_comparison comparison (value.chars ++ rest))
  have compareRead : readCompare? (column.chars ++ (comparison.chars ++ (value.chars ++ rest))) =
      some (asRead (.compare (.column column) comparison (.literal value)), rest) := by
    simp [readCompare?, columnRead, readComparison?_chars, readLiteral?_chars readable stops,
      asRead]
  simp only [chars, List.append_assoc]
  -- the alias rules out a group and a truth value, which are looked for before a comparison
  rw [begins] at compareRead ⊢
  rw [List.cons_append] at compareRead ⊢
  rw [readExpression?, isPrefixOf?_cons_of_ne (by decide)]
  simp [readTruth?, List.isPrefixOf?, compareRead]

/-- A number ends before what is left of a group behind an item. -/
theorem noneAhead_joined {separator : List Char} (blank : ∃ tail, separator = ' ' :: tail)
    (items : List Expression) (rest : List Char) :
    NoneAhead isNumeralPart (Expression.joined separator items ++ rest) := by
  obtain ⟨separator, rfl⟩ := blank
  cases items with
  | nil => exact noneAhead_cons.mpr (by decide)
  | cons first others =>
      rw [Expression.joined, List.append_assoc, List.append_assoc, List.cons_append]
      exact noneAhead_cons.mpr (by decide)

/-- The further items of a group are read back up to the closing parenthesis. -/
theorem readOthers?_joined {separator : List Char} (blank : ∃ tail, separator = ' ' :: tail)
    {items : List Expression} (readBack : ∀ e ∈ items, e.ReadsBack) (rest : List Char) {fuel : Nat}
    (enough : (Expression.joined separator items).length ≤ fuel) :
    readOthers? separator fuel (Expression.joined separator items ++ rest) =
      some (items.map Expression.asRead, rest) := by
  induction items generalizing fuel with
  | nil =>
      obtain ⟨fuel, rfl⟩ := Nat.exists_eq_add_of_le' enough
      simp [Expression.joined, readOthers?, List.isPrefixOf?]
  | cons first others ih =>
      obtain ⟨separator, rfl⟩ := blank
      simp only [Expression.joined, List.length_append, List.length_cons] at enough
      obtain ⟨fuel, rfl⟩ : ∃ n, fuel = n + 1 := ⟨fuel - 1, by omega⟩
      have ends := noneAhead_joined ⟨separator, rfl⟩ others rest
      have firstRead := readBack first (by simp) fuel _ (by omega) ends
      have othersRead : readOthers? (' ' :: separator) fuel
          (Expression.joined (' ' :: separator) others ++ rest) =
            some (others.map Expression.asRead, rest) :=
        ih (fun e member => readBack e (List.mem_cons_of_mem first member)) (by omega)
      simp only [Expression.joined, List.append_assoc]
      -- the separator begins with a blank, so what is left is not the end of the group
      rw [readOthers?, List.cons_append, isPrefixOf?_cons_of_ne (by decide), ← List.cons_append,
        isPrefixOf?_append]
      simp [firstRead, othersRead]

/-- A parenthesis opens a group: its first item and then the others, behind the one connective or
the other. -/
theorem readExpression?_group {fuel : Nat} {cs rest : List Char} {first : Expression}
    (firstRead : readExpression? fuel cs = some (first, rest)) :
    readExpression? (fuel + 1) ('(' :: cs) =
      match readOthers? " AND ".toList fuel rest with
      | some (others, rest) => some (.all (first :: others), rest)
      | none => (readOthers? " OR ".toList fuel rest).map fun (others, rest) =>
          (.any (first :: others), rest) := by
  have opened : ['('].isPrefixOf? ('(' :: cs) = some cs := by simp [List.isPrefixOf?]
  rw [readExpression?, opened]
  simp only [firstRead, Option.bind_eq_bind, Option.bind_some]
  cases readOthers? " AND ".toList fuel rest with
  | some others => rfl
  | none => cases readOthers? " OR ".toList fuel rest <;> rfl

/-- A group joined by And is read back if its items are; without items it is the word `true`. -/
theorem Expression.ReadsBack.all {items : List Expression}
    (readBack : ∀ e ∈ items, e.ReadsBack) : Expression.ReadsBack (.all items) := by
  cases items with
  | nil => exact ReadsBack.always
  | cons first others =>
      refine .of_succ (by simp [chars]) fun fuel rest enough _ => ?_
      simp only [chars, List.length_cons, List.length_append] at enough
      have blank : ∃ tail, " AND ".toList = ' ' :: tail := by simp
      have firstRead := readBack first (by simp) fuel _ (by omega)
        (noneAhead_joined blank others rest)
      have othersRead : readOthers? " AND ".toList fuel (joined " AND ".toList others ++ rest) =
          some (others.map asRead, rest) :=
        readOthers?_joined blank
          (fun e member => readBack e (List.mem_cons_of_mem first member)) rest (by omega)
      have told : asRead (.all (first :: others)) = .all (first.asRead :: others.map asRead) := by
        simp only [asRead, itemsAsRead, itemsAsRead_eq_map]
        cases others <;> rfl
      rw [chars, List.cons_append, List.cons_append, List.append_assoc,
        readExpression?_group firstRead, othersRead, told]

/-- Items joined by the one connective are not read as items joined by the other. -/
theorem readOthers?_and_of_or (fuel : Nat) (first : Expression) (others : List Expression)
    (rest : List Char) :
    readOthers? " AND ".toList fuel
      (Expression.joined " OR ".toList (first :: others) ++ rest) = none := by
  cases fuel with
  | zero => rfl
  | succ fuel => simp [readOthers?, Expression.joined, List.isPrefixOf?]

/-- A group joined by Or is read back if its items are. A group of one item is read as joined by
And. -/
theorem Expression.ReadsBack.any {items : List Expression}
    (readBack : ∀ e ∈ items, e.ReadsBack) : Expression.ReadsBack (.any items) := by
  cases items with
  | nil => exact ReadsBack.never
  | cons first others =>
      cases others with
      | nil =>
          -- nothing is joined, so the text is that of the other connective
          have same := ReadsBack.all readBack
          simpa only [ReadsBack, chars, joined, asRead, itemsAsRead, grouped] using same
      | cons second others =>
          refine .of_succ (by simp [chars]) fun fuel rest enough _ => ?_
          rw [chars, List.length_append, List.length_cons] at enough
          have blank : ∃ tail, " OR ".toList = ' ' :: tail := by simp
          have firstRead := readBack first (by simp) fuel _ (by omega)
            (noneAhead_joined blank (second :: others) rest)
          have othersRead : readOthers? " OR ".toList fuel
              (joined " OR ".toList (second :: others) ++ rest) =
                some ((second :: others).map asRead, rest) :=
            readOthers?_joined blank
              (fun e member => readBack e (List.mem_cons_of_mem first member)) rest (by omega)
          have told : asRead (.any (first :: second :: others)) =
              .any (first.asRead :: (second :: others).map asRead) := by
            simp only [asRead, itemsAsRead, itemsAsRead_eq_map, grouped, List.map_cons]
          rw [chars, List.cons_append, List.cons_append, List.append_assoc,
            readExpression?_group firstRead, readOthers?_and_of_or, othersRead, told]
          rfl

/-- Every readable expression is read back. -/
theorem Expression.Readable.readsBack {e : Expression} (readable : e.Readable) : e.ReadsBack := by
  induction readable with
  | truth value =>
      cases value with
      | false => exact .never
      | true => exact .always
  | compare name comparison value => exact .compare name comparison value
  | all _ ih => exact .all ih
  | any _ ih => exact .any ih

/-! ## Statements -/

/-- The statement has a text by which it can be read: its only alias is the one that compiled
statements use, and it asks for some column if not for all. -/
structure Select.Readable (s : Select) : Prop where
  aliasName : s.aliasName = defaultAlias
  columns : ∀ columns, s.columns = some columns →
    columns ≠ [] ∧ ∀ column ∈ columns, column.table = defaultAlias
  condition : s.condition.Readable
  order : ∀ o ∈ s.order, o.column.table = defaultAlias

/-- The limit is read back, and so is that there is none. -/
theorem readTop?_chars (top : Option UInt32) {rest : List Char}
    (other : "TOP ".toList.isPrefixOf? rest = none) :
    readTop? (topChars top ++ rest) = some (top, rest) := by
  cases top with
  | none => rw [topChars, List.nil_append, readTop?, other]
  | some n =>
      have digits : scanWhile Char.isDigit (Nat.toDigits 10 n.toNat ++ ' ' :: rest) =
          (Nat.toDigits 10 n.toNat, ' ' :: rest) :=
        scanWhile_append
          (fun c member => Nat.isDigit_of_mem_toDigits (by decide) (by decide) member)
          (noneAhead_cons.mpr (by decide))
      have fits : ¬UInt32.size ≤ n.toNat := Nat.not_le.mpr n.toNat_lt
      rw [topChars, List.append_assoc, List.append_assoc, List.singleton_append, readTop?,
        isPrefixOf?_append]
      simp [digits, List.isPrefixOf?, fits, Nat.toDigits_ne_nil, Nat.ofDigitChars_ten_toDigits]

/-- The columns are read back up to `FROM`. -/
theorem readColumns?_chars {columns : Option (List Column)}
    (aliased : ∀ cs, columns = some cs → cs ≠ [] ∧ ∀ c ∈ cs, c.table = defaultAlias)
    (rest : List Char) :
    readColumns? (columnsChars columns ++ (" FROM ".toList ++ rest)) =
      some (columns, " FROM ".toList ++ rest) := by
  cases columns with
  | none => simp [columnsChars, readColumns?, List.isPrefixOf?]
  | some columns =>
      obtain ⟨visible, aliased⟩ := aliased columns rfl
      obtain ⟨first, others, rfl⟩ := List.exists_cons_of_ne_nil visible
      obtain ⟨tail, begins⟩ := Column.chars_eq_cons (aliased first List.mem_cons_self)
      rw [columnsChars]
      generalize text_eq : separated ", ".toList ((first :: others).map Column.chars) ++
        (" FROM ".toList ++ rest) = text
      have few : others.length < text.length + 1 := by
        have items := length_le_length_separated (by simp : ", ".toList ≠ []) first.chars
          (others.map Column.chars)
        rw [← text_eq, List.length_append, List.map_cons]
        rw [List.length_map] at items
        omega
      have scanned : scanSeparated readColumn? ", ".toList (text.length + 1) text =
          some ((first :: others).map id, " FROM ".toList ++ rest) := by
        rw [← text_eq] at few ⊢
        exact scanSeparated_append (fun cs => by simp; decide) (by simp; decide)
          (by simp [List.isPrefixOf?]) first others
          (fun c member cs stops => readColumn?_chars (aliased c member) stops) few
      have noStar : ['*'].isPrefixOf? text = none := by
        simp [← text_eq, separated, begins, List.isPrefixOf?]
      rw [readColumns?, noStar]
      simp only [scanned, List.map_id, Option.bind_eq_bind, Option.bind_some]

/-- The condition is left out exactly where it always holds. -/
theorem conditionChars_cases (e : Expression) :
    (e = .always ∧ conditionChars e = []) ∨
      (e ≠ .always ∧ conditionChars e = " WHERE ".toList ++ e.chars) := by
  unfold conditionChars
  split
  · exact .inl ⟨rfl, rfl⟩
  · rename_i other
    exact .inr ⟨other, rfl⟩

/-- The condition is read back up to the order; one that is left out is read as always true. -/
theorem readCondition?_chars {e : Expression} (readable : e.Readable) (order : List Ordering) :
    readCondition? (conditionChars e ++ orderChars order) = some (e.asRead, orderChars order) := by
  have noWhere : " WHERE ".toList.isPrefixOf? (orderChars order) = none := by
    cases order <;> simp [orderChars, List.isPrefixOf?]
  have ends : NoneAhead isNumeralPart (orderChars order) := by
    cases order with
    | nil => exact noneAhead_nil _
    | cons first others => exact noneAhead_cons.mpr (by decide)
  obtain ⟨rfl, absent⟩ | ⟨-, present⟩ := conditionChars_cases e
  · rw [absent, List.nil_append, readCondition?, noWhere]
    rfl
  · rw [present, List.append_assoc, readCondition?, isPrefixOf?_append]
    exact readable.readsBack _ _ (by simp) ends

theorem readOrdering?_chars {o : Ordering} (aliased : o.column.table = defaultAlias)
    (rest : List Char) : readOrdering? (o.chars ++ rest) = some (o, rest) := by
  obtain ⟨column, descending⟩ := o
  have columnRead {cs : List Char} (ends : NoneAhead isNamePart cs) :
      readColumn? (column.chars ++ cs) = some (column, cs) := readColumn?_chars aliased ends
  have blank (cs : List Char) : NoneAhead isNamePart (' ' :: cs) := noneAhead_cons.mpr (by decide)
  cases descending <;>
    simp [Ordering.chars, readOrdering?, columnRead (blank _), List.isPrefixOf?]

/-- The order is read back up to the end of the statement. -/
theorem readOrder?_chars {order : List Ordering}
    (aliased : ∀ o ∈ order, o.column.table = defaultAlias) :
    readOrder? (orderChars order) = some (order, []) := by
  cases order with
  | nil => rfl
  | cons first others =>
      have few : others.length <
          (separated ", ".toList ((first :: others).map Ordering.chars)).length + 1 := by
        have items := length_le_length_separated (by simp : ", ".toList ≠ []) first.chars
          (others.map Ordering.chars)
        rw [List.length_map] at items
        exact Nat.lt_succ_of_le items
      have scanned : scanSeparated readOrdering? ", ".toList
          ((separated ", ".toList ((first :: others).map Ordering.chars)).length + 1)
          (separated ", ".toList ((first :: others).map Ordering.chars) ++ []) =
            some ((first :: others).map id, []) :=
        scanSeparated_append (fun _ => trivial) trivial rfl first others
          (fun o member rest (_ : True) => readOrdering?_chars (aliased o member) rest) few
      rw [List.append_nil, List.map_id] at scanned
      rw [orderChars, readOrder?, isPrefixOf?_append]
      · exact scanned
      · simp

/-- The text of a statement, part after part. -/
theorem Select.toList_text (s : Select) : s.text.toList =
    "SELECT ".toList ++ (topChars s.top ++ (columnsChars s.columns ++ (" FROM ".toList ++
      (collectionChars s.collection ++ ((' ' :: s.aliasName.toList) ++
        (conditionChars s.condition ++ orderChars s.order)))))) := by
  have nested (a b c d e f g h : List Char) :
      a ++ b ++ c ++ d ++ e ++ f ++ g ++ h = a ++ (b ++ (c ++ (d ++ (e ++ (f ++ (g ++ h)))))) := by
    simp only [List.append_assoc]
  exact String.toList_ofList.trans (nested _ _ _ _ _ _ _ _)

/-- The columns begin with a star or the alias, and so not with a limit. -/
theorem isPrefixOf?_columnsChars {columns : Option (List Column)}
    (aliased : ∀ cs, columns = some cs → cs ≠ [] ∧ ∀ c ∈ cs, c.table = defaultAlias)
    (rest : List Char) : "TOP ".toList.isPrefixOf? (columnsChars columns ++ rest) = none := by
  cases columns with
  | none => simp [columnsChars, List.isPrefixOf?]
  | some columns =>
      obtain ⟨visible, aliased⟩ := aliased columns rfl
      obtain ⟨first, others, rfl⟩ := List.exists_cons_of_ne_nil visible
      obtain ⟨tail, begins⟩ := Column.chars_eq_cons (aliased first List.mem_cons_self)
      simp [columnsChars, separated, begins, List.isPrefixOf?]

/-- The name that stands for a collection is plain. -/
theorem isPlain_collectionChars (name : String) :
    isPlain (String.ofList (collectionChars name)) = true := by
  unfold collectionChars
  split
  · rw [String.ofList_toList]
    assumption
  · decide

/-- A collection that has no plain name is called `root`. -/
theorem ofList_collectionChars (name : String) : String.ofList (collectionChars name) =
    if isPlain name then name else rootCollection := by
  unfold collectionChars
  split <;> rw [String.ofList_toList]

/-- A readable statement is read back from its text. -/
theorem Select.Readable.readSelect?_text {s : Select} (readable : s.Readable) :
    readSelect? s.text = some s.asRead := by
  have plain := isPlain_collectionChars s.collection
  have nameParts : ∀ c ∈ collectionChars s.collection, isNamePart c = true := by
    have parts := isNamePart_of_isIdentifier (isIdentifier_of_isPlain plain)
    rwa [String.toList_ofList] at parts
  have collectionRead (rest : List Char) :
      scanWhile isNamePart
          (collectionChars s.collection ++ ((' ' :: defaultAlias.toList) ++ rest)) =
        (collectionChars s.collection, (' ' :: defaultAlias.toList) ++ rest) :=
    scanWhile_append nameParts (noneAhead_cons.mpr (by decide))
  rw [readSelect?, s.toList_text, readable.aliasName]
  refine Option.bind_eq_some_iff.mpr ⟨_, isPrefixOf?_append _ _, ?_⟩
  refine Option.bind_eq_some_iff.mpr
    ⟨_, readTop?_chars s.top (isPrefixOf?_columnsChars readable.columns _), ?_⟩
  refine Option.bind_eq_some_iff.mpr ⟨_, readColumns?_chars readable.columns _, ?_⟩
  refine Option.bind_eq_some_iff.mpr ⟨_, isPrefixOf?_append _ _, ?_⟩
  rw [collectionRead]
  refine Option.bind_eq_some_iff.mpr ⟨_, isPrefixOf?_append _ _, ?_⟩
  refine Option.bind_eq_some_iff.mpr ⟨_, readCondition?_chars readable.condition _, ?_⟩
  refine Option.bind_eq_some_iff.mpr ⟨_, readOrder?_chars readable.order, ?_⟩
  refine (if_pos ⟨plain, rfl⟩).trans ?_
  rw [ofList_collectionChars, Select.asRead, readable.aliasName]

end EntityGateway.Sql
