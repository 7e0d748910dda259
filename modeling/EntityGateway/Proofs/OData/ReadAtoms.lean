import EntityGateway.Proofs.OData.Reader

/-!
# Reading the terms of filters back

The laws of the reader for terms that hold no other term: comparisons, searches, calls and truth
values. Each is read as itself in front of every rest that can follow a term, and none of them is
taken for a term of another kind, whatever the names of the properties are and whatever the strings
hold.
-/

namespace EntityGateway.OData

open Text

/-! ## Properties, comparisons and literals -/

/-- An identifier is read up to its end. -/
theorem readProperty?_append {property : String} (identifier : isIdentifier property = true)
    {rest : List Char} (stops : NoneAhead Sql.isNamePart rest) :
    readProperty? (property.toList ++ rest) = some (property, rest) := by
  have word := scanWhile_append (isNamePart_of_isIdentifier identifier) stops
  simp [readProperty?, word, identifier]

/-- A comparison is read together with the blanks around it. -/
theorem readComparison?_append (comparison : Comparison) (rest : List Char) :
    readComparison? (' ' :: comparison.name.toList ++ ' ' :: rest) = some (comparison, rest) := by
  cases comparison <;>
    simp [readComparison?, Comparison.every, Comparison.name, List.isPrefixOf?]

/-- A text that does not begin with a blank begins with no comparison. -/
theorem readComparison?_of_notAhead {cs : List Char} (other : NotAhead ' ' cs) :
    readComparison? cs = none := by
  cases cs with
  | nil => rfl
  | cons c cs =>
      have different : c ≠ ' ' := by simpa using other
      simp [readComparison?, Comparison.every, List.isPrefixOf?, different.symm]

/-- The literal has a text by which it can be read. -/
def Literal.Readable : Literal → Prop
  | raw text => IsBare text.toList
  | _ => True

/-- A character that can go on a literal. -/
def isLiteralPart (c : Char) : Bool :=
  isBarePart c || c == '\''

theorem notAhead_quote_of_isLiteralPart {rest : List Char} (stops : NoneAhead isLiteralPart rest) :
    NotAhead '\'' rest := fun c ahead => by
  have other := stops c ahead
  simp only [isLiteralPart, Bool.or_eq_false_iff] at other
  exact other.2

theorem noneAhead_bare_of_isLiteralPart {rest : List Char}
    (stops : NoneAhead isLiteralPart rest) : NoneAhead isBarePart rest := fun c ahead => by
  have other := stops c ahead
  simp only [isLiteralPart, Bool.or_eq_false_iff] at other
  exact other.1

/-- A word without quotes is read up to where it ends. -/
theorem readLiteral?_word {word rest : List Char} (visible : word ≠ [])
    (parts : ∀ c ∈ word, isBarePart c = true) (stops : NoneAhead isLiteralPart rest) :
    readLiteral? (word ++ rest) = some (.ofWord word, rest) := by
  have noQuote : ['\''].isPrefixOf? (word ++ rest) = none := by
    cases word with
    | nil => exact absurd rfl visible
    | cons c word =>
        refine isPrefixOf?_cons_of_ne ?_ [] (word ++ rest)
        rintro rfl
        have quote := parts '\'' List.mem_cons_self
        revert quote
        decide
  rw [readLiteral?, noQuote, scanWhile_append parts (noneAhead_bare_of_isLiteralPart stops)]
  simp [visible]

/-- A text that can be written without quotes is none of the words that stand for a literal. -/
theorem Literal.ofWord_of_isBare {word : List Char} (bare : IsBare word) :
    ofWord word = .raw (String.ofList word) := by
  obtain ⟨c, member, mark⟩ := bare.mark
  have notWord {letters : List Char} (alpha : letters.all Char.isAlpha = true) :
      word ≠ letters := by
    rintro rfl
    rw [List.all_eq_true.mp alpha c member] at mark
    cases mark
  have notNull : word ≠ "null".toList := notWord (by decide)
  have notTrue : word ≠ "true".toList := notWord (by decide)
  have notFalse : word ≠ "false".toList := notWord (by decide)
  rw [ofWord, if_neg notNull, if_neg notTrue, if_neg notFalse]

/-- A literal is read up to its end, in front of whatever cannot go on a literal. -/
theorem readLiteral?_chars {value : Literal} (readable : value.Readable) {rest : List Char}
    (stops : NoneAhead isLiteralPart rest) :
    readLiteral? (value.chars ++ rest) = some (value, rest) := by
  cases value with
  | null =>
      exact readLiteral?_word (by simp [Literal.chars]) (by simp [Literal.chars]; decide) stops
  | boolean truth =>
      cases truth <;>
        exact readLiteral?_word (by simp [Literal.chars]) (by simp [Literal.chars]; decide) stops
  | raw text =>
      obtain ⟨c, member, -⟩ := readable.mark
      rw [Literal.chars, readLiteral?_word (List.ne_nil_of_mem member) readable.parts stops,
        Literal.ofWord_of_isBare readable, String.ofList_toList]
  | string s =>
      have body := scanDoubled_append s.toList (notAhead_quote_of_isLiteralPart stops)
      simp [Literal.chars, doubleQuoted, readLiteral?, List.isPrefixOf?, body]

/-! ## Terms that hold no other term -/

/-- The arguments have a text by which they can be read. -/
def Arguments.Readable : Arguments → Prop
  | none => True
  | single value => value.Readable
  | pair first second => first.Readable ∧ second.Readable
  | list values => ∀ value ∈ values, value.Readable

theorem Arguments.chars_none : none.chars = [] := rfl

theorem Arguments.chars_single (value : Literal) :
    (single value).chars = ",PropertyValue=".toList ++ value.chars := rfl

theorem Arguments.chars_pair (first second : Literal) : (pair first second).chars =
    ",PropertyValue1=".toList ++ first.chars ++ ",PropertyValue2=".toList ++ second.chars := rfl

theorem Arguments.chars_list (values : List Literal) : (list values).chars =
    ",PropertyValues=[".toList ++ separated [','] (values.map Literal.chars) ++ [']'] := rfl

/-- A comparison of a property with a literal is read back. -/
theorem readCompare?_chars {property : String} (identifier : isIdentifier property = true)
    (comparison : Comparison) {value : Literal} (readable : value.Readable) {rest : List Char}
    (stops : NoneAhead isLiteralPart rest) :
    readCompare? ((Expression.compare property comparison value).chars ++ rest) =
      some (.compare property comparison value, rest) := by
  have propertyRead : readProperty? (property.toList ++
      (' ' :: comparison.name.toList ++ ' ' :: (value.chars ++ rest))) =
        some (property, ' ' :: comparison.name.toList ++ ' ' :: (value.chars ++ rest)) :=
    readProperty?_append identifier (noneAhead_cons.mpr (by decide))
  have comparisonRead := readComparison?_append comparison (value.chars ++ rest)
  have valueRead := readLiteral?_chars readable stops
  have text : (Expression.compare property comparison value).chars ++ rest =
      property.toList ++ (' ' :: comparison.name.toList ++ ' ' :: (value.chars ++ rest)) := by
    simp only [Expression.chars, List.append_assoc, List.cons_append]
  rw [text, readCompare?]
  refine Option.bind_eq_some_iff.mpr ⟨_, propertyRead, ?_⟩
  refine Option.bind_eq_some_iff.mpr ⟨_, comparisonRead, ?_⟩
  exact Option.bind_eq_some_iff.mpr ⟨_, valueRead, rfl⟩

/-- A word that no comparison follows is no comparison. -/
theorem readCompare?_word {word rest : List Char} (parts : ∀ c ∈ word, Sql.isNamePart c = true)
    (stops : NoneAhead Sql.isNamePart rest) (noComparison : readComparison? rest = none) :
    readCompare? (word ++ rest) = none := by
  unfold readCompare? readProperty?
  rw [scanWhile_append parts stops]
  dsimp only
  split
  · simp [noComparison]
  · rfl

theorem readFunction?_append (function : StringFunction) (rest : List Char) :
    readFunction? (function.name.toList ++ '(' :: rest) = some (function, rest) := by
  cases function <;>
    simp [readFunction?, StringFunction.every, StringFunction.name, List.isPrefixOf?]

theorem noneAhead_literal_cons {c : Char} (other : isLiteralPart c = false) (cs : List Char) :
    NoneAhead isLiteralPart (c :: cs) :=
  noneAhead_cons.mpr other

/-- The parts of a search in the order in which they are read. -/
theorem Expression.search_chars_append (function : StringFunction) (property : String)
    (value : Literal) (rest : List Char) :
    (Expression.search function property value).chars ++ rest =
      function.name.toList ++ ('(' ::
        (property.toList ++ (", ".toList ++ (value.chars ++ ')' :: rest)))) := by
  have nested (a b c d : List Char) :
      a ++ '(' :: b ++ c ++ d ++ [')'] ++ rest =
        a ++ ('(' :: (b ++ (c ++ (d ++ ')' :: rest)))) := by
    simp only [List.append_assoc, List.cons_append, List.nil_append]
  exact nested _ _ _ _

/-- A search is read back, whatever its text holds: quotes within it are doubled. -/
theorem readSearch?_chars (function : StringFunction) {property : String}
    (identifier : isIdentifier property = true) {value : Literal} (readable : value.Readable)
    (rest : List Char) :
    readSearch? ((Expression.search function property value).chars ++ rest) =
      some (.search function property value, rest) := by
  have propertyRead : readProperty?
      (property.toList ++ (", ".toList ++ (value.chars ++ ')' :: rest))) =
        some (property, ", ".toList ++ (value.chars ++ ')' :: rest)) :=
    readProperty?_append identifier (.append (by decide) (by decide) _)
  have valueRead := readLiteral?_chars readable
    (noneAhead_literal_cons (by decide : isLiteralPart ')' = false) rest)
  rw [Expression.search_chars_append, readSearch?]
  refine Option.bind_eq_some_iff.mpr ⟨_, readFunction?_append function _, ?_⟩
  refine Option.bind_eq_some_iff.mpr ⟨_, propertyRead, ?_⟩
  refine Option.bind_eq_some_iff.mpr ⟨_, isPrefixOf?_append _ _, ?_⟩
  refine Option.bind_eq_some_iff.mpr ⟨_, valueRead, ?_⟩
  exact Option.bind_eq_some_iff.mpr ⟨rest, by simp [List.isPrefixOf?], rfl⟩

/-- A literal begins with a character of literals. -/
theorem Literal.exists_chars_eq_cons {value : Literal} (readable : value.Readable) :
    ∃ c tail, value.chars = c :: tail ∧ isLiteralPart c = true := by
  cases value with
  | null => exact ⟨'n', ['u', 'l', 'l'], by simp [chars], by decide⟩
  | boolean truth =>
      cases truth with
      | false => exact ⟨'f', ['a', 'l', 's', 'e'], by simp [chars], by decide⟩
      | true => exact ⟨'t', ['r', 'u', 'e'], by simp [chars], by decide⟩
  | raw text =>
      obtain ⟨mark, member, -⟩ := readable.mark
      obtain ⟨c, tail, begins⟩ := List.exists_cons_of_ne_nil (List.ne_nil_of_mem member)
      have part := readable.parts c (by rw [begins]; exact List.mem_cons_self)
      exact ⟨c, tail, begins, by simp [isLiteralPart, part]⟩
  | string s => exact ⟨'\'', _, rfl, by decide⟩

/-- The items of a list are read back up to the closing bracket; commas and brackets within their
texts are quoted. -/
theorem readItems?_chars {values : List Literal} (readable : ∀ value ∈ values, value.Readable)
    (rest : List Char) :
    readItems? (separated [','] (values.map Literal.chars) ++ ']' :: rest) =
      some (values, rest) := by
  cases values with
  | nil => simp [readItems?, separated, List.isPrefixOf?]
  | cons first others =>
      generalize text_eq : separated [','] ((first :: others).map Literal.chars) ++ ']' :: rest =
        text
      have few : others.length < text.length + 1 := by
        have items := length_le_length_separated (by simp : [','] ≠ []) first.chars
          (others.map Literal.chars)
        rw [← text_eq, List.length_append, List.map_cons]
        rw [List.length_map] at items
        omega
      have scanned : scanSeparated readLiteral? [','] (text.length + 1) text =
          some ((first :: others).map id, ']' :: rest) := by
        rw [← text_eq] at few ⊢
        exact scanSeparated_append (fun cs => noneAhead_literal_cons (by decide) cs)
          (noneAhead_literal_cons (by decide) rest) (by simp [List.isPrefixOf?]) first others
          (fun value member cs stops => readLiteral?_chars (readable value member) stops) few
      have noBracket : [']'].isPrefixOf? text = none := by
        obtain ⟨c, tail, begins, part⟩ :=
          Literal.exists_chars_eq_cons (readable first List.mem_cons_self)
        rw [← text_eq, List.map_cons, separated, begins, List.cons_append, List.cons_append]
        refine isPrefixOf?_cons_of_ne ?_ _ _
        rintro rfl
        revert part
        decide
      rw [readItems?, noBracket]
      refine Option.bind_eq_some_iff.mpr ⟨_, scanned, ?_⟩
      rw [List.map_id]
      exact Option.bind_eq_some_iff.mpr ⟨rest, by simp [List.isPrefixOf?], rfl⟩

/-- Arguments are read back by the names they are given under. -/
theorem readArguments?_chars {arguments : Arguments} (readable : arguments.Readable)
    (rest : List Char) :
    readArguments? (arguments.chars ++ ')' :: rest) = some (arguments, ')' :: rest) := by
  have closes : NoneAhead isLiteralPart (')' :: rest) := noneAhead_literal_cons (by decide) rest
  cases arguments with
  | none =>
      have notSingle : Apart ",PropertyValue=".toList [')'] := by decide
      have notPair : Apart ",PropertyValue1=".toList [')'] := by decide
      have notList : Apart ",PropertyValues=[".toList [')'] := by decide
      rw [Arguments.chars_none, List.nil_append, ← List.singleton_append, readArguments?,
        isPrefixOf?_of_apart notSingle, isPrefixOf?_of_apart notPair,
        isPrefixOf?_of_apart notList]
  | single value =>
      rw [Arguments.chars_single, List.append_assoc, readArguments?, isPrefixOf?_append]
      simp [readLiteral?_chars readable closes]
  | pair first second =>
      have notSingle : Apart ",PropertyValue=".toList ",PropertyValue1=".toList := by decide
      have comma : NoneAhead isLiteralPart ",PropertyValue2=".toList := by decide
      have visible : ",PropertyValue2=".toList ≠ [] := by decide
      have firstRead := readLiteral?_chars readable.1
        (comma.append visible (second.chars ++ ')' :: rest))
      rw [Arguments.chars_pair, List.append_assoc, List.append_assoc, List.append_assoc,
        readArguments?, isPrefixOf?_of_apart notSingle, isPrefixOf?_append]
      refine Option.bind_eq_some_iff.mpr ⟨_, firstRead, ?_⟩
      refine Option.bind_eq_some_iff.mpr ⟨_, isPrefixOf?_append _ _, ?_⟩
      exact Option.bind_eq_some_iff.mpr ⟨_, readLiteral?_chars readable.2 closes, rfl⟩
  | list values =>
      have notSingle : Apart ",PropertyValue=".toList ",PropertyValues=[".toList := by decide
      have notPair : Apart ",PropertyValue1=".toList ",PropertyValues=[".toList := by decide
      rw [Arguments.chars_list, List.append_assoc, List.append_assoc, List.singleton_append,
        readArguments?, isPrefixOf?_of_apart notSingle, isPrefixOf?_of_apart notPair,
        isPrefixOf?_append]
      simp [readItems?_chars readable (')' :: rest)]

/-- The parts of a call in the order in which they are read. -/
theorem Expression.call_chars_append (function property : String) (arguments : Arguments)
    (rest : List Char) :
    (Expression.call function property arguments).chars ++ rest =
      (platformNamespace.toList ++ ['.']) ++ (function.toList ++ ("(PropertyName='".toList ++
        (doubled '\'' property.toList ++ '\'' :: (arguments.chars ++ ')' :: rest)))) := by
  have nested (a b d e : List Char) :
      a ++ '.' :: b ++ "(PropertyName=".toList ++ ('\'' :: d ++ ['\'']) ++ e ++ [')'] ++ rest =
        (a ++ ['.']) ++ (b ++ ("(PropertyName='".toList ++ (d ++ '\'' :: (e ++ ')' :: rest)))) := by
    simp [List.append_assoc]
  exact nested _ _ _ _

/-- A call is read back, by its name up to the first parenthesis. -/
theorem readCall?_chars {function : String} (named : ∀ c ∈ function.toList, (c != '(') = true)
    (property : String) {arguments : Arguments} (readable : arguments.Readable)
    (rest : List Char) :
    readCall? ((Expression.call function property arguments).chars ++ rest) =
      some (.call function property arguments, rest) := by
  have noQuote : NotAhead '\'' (arguments.chars ++ ')' :: rest) := by
    cases arguments with
    | none => exact noneAhead_cons.mpr (by decide)
    | single | pair | list =>
        simp only [Arguments.chars_single, Arguments.chars_pair, Arguments.chars_list,
          List.append_assoc]
        exact NoneAhead.append (by decide) (by decide) _
  have propertyRead := scanDoubled_append property.toList noQuote
  have opens : NoneAhead (· != '(') ("(PropertyName='".toList ++
      (doubled '\'' property.toList ++ '\'' :: (arguments.chars ++ ')' :: rest))) :=
    .append (by decide) (by decide) _
  have functionRead := scanWhile_append named opens
  rw [Expression.call_chars_append, readCall?]
  refine Option.bind_eq_some_iff.mpr
    ⟨_, isPrefixOf?_append (platformNamespace.toList ++ ['.']) _, ?_⟩
  rw [functionRead]
  refine Option.bind_eq_some_iff.mpr ⟨_, isPrefixOf?_append _ _, ?_⟩
  refine Option.bind_eq_some_iff.mpr ⟨_, propertyRead, ?_⟩
  refine Option.bind_eq_some_iff.mpr ⟨_, readArguments?_chars readable rest, ?_⟩
  refine Option.bind_eq_some_iff.mpr ⟨rest, by simp [List.isPrefixOf?], ?_⟩
  rw [String.ofList_toList, String.ofList_toList]

/-- The text can follow a term: nothing, the end of a group, or a connective. -/
inductive Follows : List Char → Prop
  | nothing : Follows []
  | close (rest : List Char) : Follows (')' :: rest)
  | link (connective : Connective) (rest : List Char) : Follows (connective.chars ++ rest)

/-- What follows a term begins with nothing, a closing parenthesis or a blank. -/
theorem Follows.noneAhead {rest : List Char} (follows : Follows rest) {p : Char → Bool}
    (close : p ')' = false) (blank : p ' ' = false) : NoneAhead p rest := by
  cases follows with
  | nothing => exact noneAhead_nil p
  | close rest => exact noneAhead_cons.mpr close
  | link connective rest =>
      have begins : NoneAhead p connective.chars := by
        cases connective <;> exact noneAhead_cons.mpr blank
      exact begins.append (by cases connective <;> decide) rest

/-- What follows a term is no comparison, so a term is not taken for a property. -/
theorem Follows.noComparison {rest : List Char} (follows : Follows rest) :
    readComparison? rest = none := by
  cases follows with
  | nothing => exact readComparison?_of_notAhead (noneAhead_nil _)
  | close rest => exact readComparison?_of_notAhead (noneAhead_cons.mpr (by decide))
  | link connective rest =>
      cases connective <;>
        simp [readComparison?, Comparison.every, Comparison.name, Connective.chars,
          List.isPrefixOf?]

/-- A comparison is read as such even if the property is called like an operator or a function. -/
theorem readAtom?_compare {property : String} (identifier : isIdentifier property = true)
    (comparison : Comparison) {value : Literal} (readable : value.Readable) {rest : List Char}
    (follows : Follows rest) :
    readAtom? ((Expression.compare property comparison value).chars ++ rest) =
      some (.compare property comparison value, rest) := by
  have read := readCompare?_chars identifier comparison readable
    (follows.noneAhead (p := isLiteralPart) (by decide) (by decide))
  rw [readAtom?, read]
  rfl

/-- A search is read as such: the parenthesis behind its name keeps it from being a property. -/
theorem readAtom?_search (function : StringFunction) {property : String}
    (identifier : isIdentifier property = true) {value : Literal} (readable : value.Readable)
    (rest : List Char) :
    readAtom? ((Expression.search function property value).chars ++ rest) =
      some (.search function property value, rest) := by
  have noCompare : readCompare? ((Expression.search function property value).chars ++ rest) =
      none := by
    rw [Expression.search_chars_append]
    exact readCompare?_word (List.all_eq_true.mp (by cases function <;> decide))
      (noneAhead_cons.mpr (by decide))
      (readComparison?_of_notAhead (noneAhead_cons.mpr (by decide)))
  rw [readAtom?, noCompare, readSearch?_chars function identifier readable rest]
  rfl

/-- A text that begins unlike every search is none. -/
theorem readSearch?_of_apart {word : List Char}
    (apart : ∀ function ∈ StringFunction.every, Apart (function.name.toList ++ ['(']) word)
    (rest : List Char) : readSearch? (word ++ rest) = none := by
  have noFunction : readFunction? (word ++ rest) = none := by
    refine List.findSome?_eq_none_iff.mpr fun function member => ?_
    rw [isPrefixOf?_of_apart (apart function member), Option.map_none]
  rw [readSearch?, noFunction]
  rfl

/-- A text that begins unlike every call is none. -/
theorem readCall?_of_apart {word : List Char}
    (apart : Apart (platformNamespace.toList ++ ['.']) word) (rest : List Char) :
    readCall? (word ++ rest) = none := by
  rw [readCall?, isPrefixOf?_of_apart apart]
  rfl

/-- A text that begins unlike either truth value is none. -/
theorem readTruth?_of_apart {word : List Char} (notTrue : Apart "true".toList word)
    (notFalse : Apart "false".toList word) (rest : List Char) :
    readTruth? (word ++ rest) = none := by
  rw [readTruth?, isPrefixOf?_of_apart notTrue, isPrefixOf?_of_apart notFalse]
  rfl

/-- A call is read as such: the point in its name keeps it from being a property. -/
theorem readAtom?_call {function : String} (named : ∀ c ∈ function.toList, (c != '(') = true)
    (property : String) {arguments : Arguments} (readable : arguments.Readable)
    (rest : List Char) :
    readAtom? ((Expression.call function property arguments).chars ++ rest) =
      some (.call function property arguments, rest) := by
  have namespace_eq (cs : List Char) : platformNamespace.toList ++ ['.'] ++ cs =
      "Microsoft".toList ++ ('.' :: ("Dynamics.CRM.".toList ++ cs)) := rfl
  have noCompare : readCompare? ((Expression.call function property arguments).chars ++ rest) =
      none := by
    rw [Expression.call_chars_append, namespace_eq]
    exact readCompare?_word (List.all_eq_true.mp (by decide)) (noneAhead_cons.mpr (by decide))
      (readComparison?_of_notAhead (noneAhead_cons.mpr (by decide)))
  have noSearch : readSearch? ((Expression.call function property arguments).chars ++ rest) =
      none := by
    rw [Expression.call_chars_append]
    exact readSearch?_of_apart (by decide) _
  rw [readAtom?, noCompare, noSearch, readCall?_chars named property readable rest]
  rfl

/-- A word that begins neither a search nor a call can only be a truth value, if no comparison
follows it. -/
theorem readAtom?_word {word : List Char} (parts : ∀ c ∈ word, Sql.isNamePart c = true)
    (noSearch : ∀ rest, readSearch? (word ++ rest) = none)
    (noCall : ∀ rest, readCall? (word ++ rest) = none) {rest : List Char}
    (follows : Follows rest) : readAtom? (word ++ rest) = readTruth? (word ++ rest) := by
  have noCompare : readCompare? (word ++ rest) = none :=
    readCompare?_word parts (follows.noneAhead (by decide) (by decide)) follows.noComparison
  rw [readAtom?, noCompare, noSearch, noCall]
  rfl

theorem readAtom?_all_nil {rest : List Char} (follows : Follows rest) :
    readAtom? ((Expression.all []).chars ++ rest) = some (.all [], rest) := by
  have text : (Expression.all []).chars = "true".toList := rfl
  have letters : ∀ c ∈ "true".toList, Sql.isNamePart c = true :=
    List.all_eq_true.mp (by decide)
  have noSearch := readSearch?_of_apart (by decide : ∀ function ∈ _, Apart _ "true".toList)
  have noCall := readCall?_of_apart (by decide : Apart _ "true".toList)
  rw [text, readAtom?_word letters noSearch noCall follows, readTruth?, isPrefixOf?_append]

theorem readAtom?_any_nil {rest : List Char} (follows : Follows rest) :
    readAtom? ((Expression.any []).chars ++ rest) = some (.any [], rest) := by
  have text : (Expression.any []).chars = "false".toList := rfl
  have letters : ∀ c ∈ "false".toList, Sql.isNamePart c = true :=
    List.all_eq_true.mp (by decide)
  have noSearch := readSearch?_of_apart (by decide : ∀ function ∈ _, Apart _ "false".toList)
  have noCall := readCall?_of_apart (by decide : Apart _ "false".toList)
  have notTrue : Apart "true".toList "false".toList := by decide
  rw [text, readAtom?_word letters noSearch noCall follows, readTruth?,
    isPrefixOf?_of_apart notTrue, isPrefixOf?_append]
  rfl

/-- A negated search is no term that holds no other: what follows the word is no comparison. -/
theorem readAtom?_not (function : StringFunction) (property : String) (value : Literal)
    (rest : List Char) :
    readAtom? ("not ".toList ++ ((Expression.search function property value).chars ++ rest)) =
      none := by
  have text (cs : List Char) : "not ".toList ++ cs = "not".toList ++ (' ' :: cs) := rfl
  have noCompare : readCompare? ("not".toList ++
      (' ' :: ((Expression.search function property value).chars ++ rest))) = none := by
    refine readCompare?_word (List.all_eq_true.mp (by decide)) (noneAhead_cons.mpr (by decide)) ?_
    rw [Expression.search_chars_append]
    cases function <;>
      simp [readComparison?, Comparison.every, Comparison.name, StringFunction.name,
        List.isPrefixOf?]
  have noSearch := readSearch?_of_apart (by decide : ∀ function ∈ _, Apart _ "not ".toList)
  have noCall := readCall?_of_apart (by decide : Apart _ "not ".toList)
  have notTrue : Apart "true".toList "not ".toList := by decide
  have notFalse : Apart "false".toList "not ".toList := by decide
  rw [readAtom?, noSearch, noCall, readTruth?_of_apart notTrue notFalse, text, noCompare]
  rfl

/-- A parenthesis opens no term that holds no other. -/
theorem readAtom?_group (cs : List Char) : readAtom? (['('] ++ cs) = none := by
  have noCompare : readCompare? ([] ++ '(' :: cs) = none :=
    readCompare?_word (by simp) (noneAhead_cons.mpr (by decide))
      (readComparison?_of_notAhead (noneAhead_cons.mpr (by decide)))
  have noSearch := readSearch?_of_apart (by decide : ∀ function ∈ _, Apart _ ['('])
  have noCall := readCall?_of_apart (by decide : Apart _ ['('])
  have notTrue : Apart "true".toList ['('] := by decide
  have notFalse : Apart "false".toList ['('] := by decide
  rw [List.nil_append, ← List.singleton_append] at noCompare
  rw [readAtom?, noCompare, noSearch, noCall, readTruth?_of_apart notTrue notFalse]
  rfl

end EntityGateway.OData
