import EntityGateway.Proofs.Sql.Compiled

/-!
# Bare names and keywords

The words of a statement are what stands outside of its quotes, split at blanks and signs; a
property under the alias is one word with it. `Select.Readable.isOrdinary` says what the words of a
compiled statement are: keywords, the alias, numbers, and bare names, of which one stands behind
`FROM` and the others behind the alias and a point. Whatever the external names are, a bare name is
no keyword, in whatever case, with a single exception: `WHERE` is a keyword of these statements, but
is missing from the words that cannot be bare names.
-/

namespace EntityGateway.Sql

open Text

/-! ## The words of a text -/

/-- A character of words. A point belongs to the word, so that a property is one word with its
alias. -/
def isWordPart (c : Char) : Bool :=
  isNamePart c || c = '.'

/-- Where in a text a reader of words is. -/
inductive Place where
  /-- Outside of quotes, behind some characters of a word. -/
  | outside (read : List Char)
  /-- Between quotes. -/
  | inside (quote : Char) (escaped : Bool)

/-- The characters that have been read are a word, unless there are none. -/
def finished (read : List Char) : List (List Char) :=
  if read.isEmpty then [] else [read]

/-- The words of the rest of a text. -/
def wordsFrom : Place → List Char → List (List Char)
  | .outside read, [] => finished read
  | .outside read, c :: rest =>
    if isWordPart c then wordsFrom (.outside (read ++ [c])) rest
    else
      finished read ++
        wordsFrom (if c = '\'' ∨ c = '"' then .inside c false else .outside []) rest
  | .inside .., [] => []
  | .inside quote escaped, c :: rest =>
    if escaped then wordsFrom (.inside quote false) rest
    else if c = quote then wordsFrom (.outside []) rest
    else wordsFrom (.inside quote (c = '\\')) rest

/-- The words of a text, from left to right. What stands between quotes is passed over, and a
backslash there keeps the character behind it from being a quote. -/
def words (cs : List Char) : List (List Char) :=
  wordsFrom (.outside []) cs

/-- Characters of words go on the word that is being read. -/
theorem wordsFrom_append {read word rest : List Char}
    (parts : ∀ c ∈ word, isWordPart c = true) :
    wordsFrom (.outside read) (word ++ rest) = wordsFrom (.outside (read ++ word)) rest := by
  induction word generalizing read with
  | nil => rw [List.nil_append, List.append_nil]
  | cons c word ih =>
      obtain ⟨first, others⟩ := List.forall_mem_cons.mp parts
      rw [List.cons_append, wordsFrom, if_pos first, ih others, List.append_assoc,
        List.singleton_append]

/-- A word ends where no character of words follows. -/
theorem wordsFrom_of_stops {read rest : List Char} (stops : NoneAhead isWordPart rest) :
    wordsFrom (.outside read) rest = finished read ++ words rest := by
  cases rest with
  | nil => simp [words, wordsFrom, finished]
  | cons c rest =>
      have other : ¬ isWordPart c = true := by simpa using stops
      simp [words, wordsFrom, finished, other]

/-- A word is found in front of what cannot be more of it. -/
theorem words_append {word rest : List Char} (visible : word ≠ [])
    (parts : ∀ c ∈ word, isWordPart c = true) (stops : NoneAhead isWordPart rest) :
    words (word ++ rest) = word :: words rest := by
  rw [words, wordsFrom_append parts, List.nil_append, wordsFrom_of_stops stops]
  simp [finished, visible]

/-- A character that neither belongs to words nor opens quotes is passed over. -/
theorem words_cons {c : Char} (other : isWordPart c = false) (noQuote : c ≠ '\'' ∧ c ≠ '"')
    (rest : List Char) : words (c :: rest) = words rest := by
  simp [words, wordsFrom, other, noQuote, finished]

/-- Quotes are left at their own end: no character of the body, however it is escaped, ends them
before. -/
theorem wordsFrom_backslashed {quote : Char} (notBackslash : '\\' ≠ quote) (body rest : List Char) :
    wordsFrom (.inside quote false) (backslashed quote body ++ quote :: rest) = words rest := by
  induction body with
  | nil => simp [backslashed, wordsFrom, words]
  | cons c body ih =>
      by_cases escaped : c = quote ∨ c = '\\'
      · simp [backslashed, escaped, wordsFrom, notBackslash, ih]
      · obtain ⟨notQuote, plain⟩ := not_or.mp escaped
        simp [backslashed, notQuote, plain, wordsFrom, ih]

/-- A quoted text holds no words, whatever it looks like. -/
theorem words_backslashQuoted {quote : Char} (isQuote : quote = '\'' ∨ quote = '"')
    (body rest : List Char) : words (backslashQuoted quote body ++ rest) = words rest := by
  have notBackslash : '\\' ≠ quote := by rcases isQuote with rfl | rfl <;> decide
  have other : isWordPart quote = false := by rcases isQuote with rfl | rfl <;> decide
  have body := wordsFrom_backslashed notBackslash body rest
  simpa [backslashQuoted, words, wordsFrom, other, isQuote, finished] using body

/-- The words of a text of characters of numbers consist of such characters. -/
theorem wordsFrom_numeral {read digits rest : List Char}
    (readParts : ∀ c ∈ read, isNumeralPart c = true)
    (parts : ∀ c ∈ digits, isNumeralPart c = true) (stops : NoneAhead isWordPart rest) :
    ∃ ws, wordsFrom (.outside read) (digits ++ rest) = ws ++ words rest ∧
      ∀ w ∈ ws, ∀ c ∈ w, isNumeralPart c = true := by
  have ended {read : List Char} (readParts : ∀ c ∈ read, isNumeralPart c = true) :
      ∀ w ∈ finished read, ∀ c ∈ w, isNumeralPart c = true := by
    unfold finished
    split
    · exact List.forall_mem_nil _
    · exact List.forall_mem_singleton.mpr readParts
  induction digits generalizing read with
  | nil => exact ⟨finished read, wordsFrom_of_stops stops, ended readParts⟩
  | cons c digits ih =>
      obtain ⟨first, others⟩ := List.forall_mem_cons.mp parts
      by_cases inWord : isWordPart c = true
      · have more : ∀ d ∈ read ++ [c], isNumeralPart d = true :=
          List.forall_mem_append.mpr ⟨readParts, List.forall_mem_singleton.mpr first⟩
        obtain ⟨ws, found, numeral⟩ := ih more others
        exact ⟨ws, by rw [List.cons_append, wordsFrom, if_pos inWord, found], numeral⟩
      · -- a sign, which ends the word that was read
        have noQuote : ¬ (c = '\'' ∨ c = '"') := by
          rintro (rfl | rfl) <;> cases first
        obtain ⟨ws, found, numeral⟩ := @ih [] (by simp) others
        refine ⟨finished read ++ ws, ?_, List.forall_mem_append.mpr ⟨ended readParts, numeral⟩⟩
        rw [List.cons_append, wordsFrom, if_neg inWord, if_neg noQuote, found, List.append_assoc]

/-! ## Keywords -/

/-- The keywords of statements. -/
def keywords : List String :=
  ["SELECT", "TOP", "FROM", "WHERE", "ORDER", "BY", "ASC", "DESC", "AND", "OR", "true", "false",
    "null"]

/-- Each keyword is one word. -/
theorem isWord_of_mem_keywords {keyword : String} (isKeyword : keyword ∈ keywords) :
    keyword.toList ≠ [] ∧ ∀ c ∈ keyword.toList, isWordPart c = true := by
  have each : keywords.all (fun k => k.toList ≠ [] && k.toList.all isWordPart) = true := by decide
  have isWord := List.all_eq_true.mp each keyword isKeyword
  simpa only [Bool.and_eq_true, decide_eq_true_eq, List.all_eq_true] using isWord

theorem isWordPart_defaultAlias : ∀ c ∈ defaultAlias.toList, isWordPart c = true :=
  List.all_eq_true.mp (by decide)

/-- A name is a keyword in some case. -/
def Collides (name keyword : String) : Prop :=
  name.toList.map Char.toLower = keyword.toList.map Char.toLower

instance (name keyword : String) : Decidable (Collides name keyword) :=
  inferInstanceAs (Decidable (_ = _))

/-- The name stands bare in a text: behind the alias and a point, or behind `FROM`. -/
def IsBareName (cs : List Char) (name : String) : Prop :=
  defaultAlias.toList ++ '.' :: name.toList ∈ words cs ∨
    ["FROM".toList, name.toList] <:+: words cs

instance (cs : List Char) (name : String) : Decidable (IsBareName cs name) :=
  inferInstanceAs (Decidable (_ ∨ _))

/-- What the words of a text can be: keywords, the alias, numbers or parts of them, and bare
names. -/
inductive IsOrdinary (cs : List Char) : List Char → Prop
  | keyword {keyword : String} : keyword ∈ keywords → IsOrdinary cs keyword.toList
  | aliasName : IsOrdinary cs defaultAlias.toList
  | numeral {digits : List Char} : (∀ c ∈ digits, isNumeralPart c = true) → IsOrdinary cs digits
  | property {name : String} : IsBareName cs name →
    IsOrdinary cs (defaultAlias.toList ++ '.' :: name.toList)
  | collection {name : String} : IsBareName cs name → IsOrdinary cs name.toList

/-- A word of a statement other than `FROM` and the collection behind it. -/
inductive IsRegular : List Char → Prop
  | keyword {keyword : String} : keyword ∈ keywords → keyword ≠ "FROM" → IsRegular keyword.toList
  | aliasName : IsRegular defaultAlias.toList
  | property {name : String} : isPlain name = true →
    IsRegular (defaultAlias.toList ++ '.' :: name.toList)
  | numeral {digits : List Char} : (∀ c ∈ digits, isNumeralPart c = true) → IsRegular digits

/-- The regular words of a text are ordinary; a bare property among them is one of the text. -/
theorem IsRegular.isOrdinary {cs w : List Char} (regular : IsRegular w) (member : w ∈ words cs) :
    IsOrdinary cs w := by
  cases regular with
  | keyword isKeyword _ => exact .keyword isKeyword
  | aliasName => exact .aliasName
  | property _ => exact .property (.inl member)
  | numeral parts => exact .numeral parts

theorem IsRegular.ne_from {w : List Char} (regular : IsRegular w) : w ≠ "FROM".toList := by
  rintro rfl
  generalize word_eq : "FROM".toList = w at regular
  cases regular with
  | keyword _ other => exact other (String.toList_inj.mp word_eq).symm
  | aliasName => cases word_eq
  | property => cases word_eq
  | numeral parts => exact absurd (parts 'F' (word_eq ▸ by decide)) (by decide)

/-- Behind the alias and a point stands a plain name, since neither a keyword nor a number has the
alias in front. -/
theorem isPlain_of_isRegular {name : String}
    (regular : IsRegular (defaultAlias.toList ++ '.' :: name.toList)) : isPlain name = true := by
  generalize word_eq : defaultAlias.toList ++ '.' :: name.toList = w at regular
  have point : '.' ∈ w := word_eq ▸ by simp
  cases regular with
  | keyword isKeyword =>
      have pointless : ∀ k ∈ keywords, '.' ∉ k.toList := by decide
      exact absurd point (pointless _ isKeyword)
  | aliasName => exact absurd point (by decide)
  | property plain =>
      have same := List.append_cancel_left word_eq
      rwa [String.toList_inj.mp (List.cons.inj same).2]
  | numeral parts => exact absurd (parts 'a' (word_eq ▸ by simp [defaultAlias])) (by decide)

/-! ## What the writers write -/

/-- All words of a text are regular, in front of whatever ends a word. -/
def WritesRegular (cs : List Char) : Prop :=
  ∀ rest, NoneAhead isWordPart rest →
    ∃ ws, words (cs ++ rest) = ws ++ words rest ∧ ∀ w ∈ ws, IsRegular w

namespace WritesRegular

variable {cs ds : List Char}

theorem nil : WritesRegular [] :=
  fun _ _ => ⟨[], rfl, by simp⟩

/-- Texts that are written one after the other are read as their words, one after the other, where a
word ends between them. -/
theorem append (first : WritesRegular cs) (second : WritesRegular ds)
    (stops : NoneAhead isWordPart ds) : WritesRegular (cs ++ ds) := by
  intro rest restStops
  obtain ⟨ws, found, regular⟩ := first (ds ++ rest) (noneAhead_append stops restStops)
  obtain ⟨vs, foundMore, regularMore⟩ := second rest restStops
  refine ⟨ws ++ vs, ?_, List.forall_mem_append.mpr ⟨regular, regularMore⟩⟩
  rw [List.append_assoc, found, foundMore, List.append_assoc]

/-- Blanks and signs are no words. -/
theorem cons {c : Char} (other : isWordPart c = false) (noQuote : c ≠ '\'' ∧ c ≠ '"')
    (writes : WritesRegular cs) : WritesRegular (c :: cs) := by
  intro rest stops
  obtain ⟨ws, found, regular⟩ := writes rest stops
  exact ⟨ws, by rw [List.cons_append, words_cons other noQuote, found], regular⟩

theorem blank (writes : WritesRegular cs) : WritesRegular (' ' :: cs) :=
  writes.cons (by decide) (by decide)

/-- One regular word by itself. -/
theorem word (regular : IsRegular cs) (visible : cs ≠ [])
    (parts : ∀ c ∈ cs, isWordPart c = true) : WritesRegular cs :=
  fun _ stops => ⟨[cs], words_append visible parts stops, by simpa using regular⟩

theorem keyword (keyword : String) (isKeyword : keyword ∈ keywords) (other : keyword ≠ "FROM") :
    WritesRegular keyword.toList := by
  obtain ⟨visible, parts⟩ := isWord_of_mem_keywords isKeyword
  exact word (.keyword isKeyword other) visible parts

theorem aliasName : WritesRegular defaultAlias.toList :=
  word .aliasName (by decide) isWordPart_defaultAlias

/-- A keyword and the blank behind it. -/
theorem keyword_blank (keyword : String) (isKeyword : keyword ∈ keywords)
    (other : keyword ≠ "FROM") (writes : WritesRegular cs) :
    WritesRegular (keyword.toList ++ ' ' :: cs) :=
  (WritesRegular.keyword keyword isKeyword other).append writes.blank
    (noneAhead_cons.mpr (by decide))

/-- A number is read as words that are parts of it, whatever signs and points it has. -/
theorem numeral (parts : ∀ c ∈ cs, isNumeralPart c = true) : WritesRegular cs := by
  intro rest stops
  obtain ⟨ws, found, numerals⟩ := wordsFrom_numeral (List.forall_mem_nil _) parts stops
  exact ⟨ws, found, fun w member => .numeral (numerals w member)⟩

/-- What stands in quotes has no words. -/
theorem quoted {quote : Char} (isQuote : quote = '\'' ∨ quote = '"') (body : List Char) :
    WritesRegular (backslashQuoted quote body) :=
  fun rest _ => ⟨[], words_backslashQuoted isQuote body rest, by simp⟩

/-- Texts with a comma and a blank between them. -/
theorem separated {items : List (List Char)} (writes : ∀ item ∈ items, WritesRegular item) :
    WritesRegular (Text.separated ", ".toList items) := by
  cases items with
  | nil => exact nil
  | cons first others =>
      obtain ⟨writesFirst, writesOthers⟩ := List.forall_mem_cons.mp writes
      have behind : WritesRegular (others.flatMap (", ".toList ++ ·)) ∧
          NoneAhead isWordPart (others.flatMap (", ".toList ++ ·)) := by
        clear writes writesFirst
        induction others with
        | nil => exact ⟨nil, noneAhead_nil _⟩
        | cons second others ih =>
            obtain ⟨writesSecond, writesOthers⟩ := List.forall_mem_cons.mp writesOthers
            obtain ⟨writesRest, stops⟩ := ih writesOthers
            exact ⟨((writesSecond.append writesRest stops).blank).cons (by decide) (by decide),
              noneAhead_cons.mpr (by decide)⟩
      exact writesFirst.append behind.1 behind.2

end WritesRegular

theorem isWordPart_of_isNamePart {c : Char} (part : isNamePart c = true) : isWordPart c = true := by
  simp [isWordPart, part]

theorem isNamePart_of_isPlain {name : String} (plain : isPlain name = true) :
    ∀ c ∈ name.toList, isNamePart c = true :=
  isNamePart_of_isIdentifier (isIdentifier_of_isPlain plain)

/-- A property is one word if its name is plain, and the alias alone if it is quoted. -/
theorem writesRegular_column {column : Column} (aliased : column.table = defaultAlias) :
    WritesRegular column.chars := by
  obtain ⟨table, name⟩ := column
  obtain rfl : table = defaultAlias := aliased
  simp only [Column.chars, propertyChars]
  split
  · rename_i plain
    have point : isWordPart '.' = true := by decide
    have nameParts : ∀ c ∈ name.toList, isWordPart c = true := fun c member =>
      isWordPart_of_isNamePart (isNamePart_of_isPlain plain c member)
    exact .word (.property plain) (by simp) (List.forall_mem_append.mpr
      ⟨isWordPart_defaultAlias, List.forall_mem_cons.mpr ⟨point, nameParts⟩⟩)
  · have closing : WritesRegular [']'] := WritesRegular.nil.cons (by decide) (by decide)
    have body := (WritesRegular.quoted (.inr rfl) name.toList).append closing
      (noneAhead_cons.mpr (by decide))
    exact WritesRegular.aliasName.append (body.cons (by decide) (by decide))
      (noneAhead_cons.mpr (by decide))

theorem writesRegular_comparison (comparison : Comparison) {cs : List Char}
    (writes : WritesRegular cs) : WritesRegular (comparison.chars ++ cs) := by
  cases comparison with
  | equal | greater | less => exact (writes.blank.cons (by decide) (by decide)).blank
  | notEqual | greaterOrEqual | lessOrEqual =>
      exact ((writes.blank.cons (by decide) (by decide)).cons (by decide) (by decide)).blank

/-- A literal is a keyword, a number or quoted text. -/
theorem writesRegular_literal {value : Literal} (readable : value.Readable) :
    WritesRegular value.chars := by
  cases value with
  | null => exact .keyword "null" (by decide) (by decide)
  | boolean value =>
      cases value with
      | true => exact .keyword "true" (by decide) (by decide)
      | false => exact .keyword "false" (by decide) (by decide)
  | integer n =>
      have numeral := Value.isNumeral_integerText n.toInt
      rw [Value.integerText, String.toList_ofList] at numeral
      exact .numeral numeral.parts
  | double d => exact .numeral (Double.isNumeral_plain readable).parts
  | number text => exact .numeral (IsNumeral.parts readable)
  | string s => exact .quoted (.inl rfl) s.toList

theorem noneAhead_joined_words {separator : List Char} (items : List Expression) :
    NoneAhead isWordPart (Expression.joined (' ' :: separator) items) := by
  cases items with
  | nil => exact noneAhead_cons.mpr (by decide)
  | cons first others => exact noneAhead_cons.mpr (by decide)

/-- Items that are joined by a keyword. -/
theorem writesRegular_joined (connective : String) (isKeyword : connective ∈ keywords)
    (other : connective ≠ "FROM") {items : List Expression}
    (writes : ∀ e ∈ items, WritesRegular e.chars) :
    WritesRegular (Expression.joined (' ' :: (connective.toList ++ [' '])) items) := by
  induction items with
  | nil => exact WritesRegular.nil.cons (by decide) (by decide)
  | cons first others ih =>
      obtain ⟨writesFirst, writesOthers⟩ := List.forall_mem_cons.mp writes
      have items := writesFirst.append (ih writesOthers) (noneAhead_joined_words others)
      have joined := (WritesRegular.keyword_blank connective isKeyword other items).blank
      simpa [Expression.joined] using joined

/-- The words of a condition are regular at every depth of its groups. -/
theorem Expression.Readable.writesRegular {e : Expression} (readable : e.Readable) :
    WritesRegular e.chars := by
  induction readable with
  | truth value => cases value <;> exact writesRegular_literal trivial
  | compare name comparison value =>
      have column : WritesRegular (Column.chars ⟨defaultAlias, name⟩) := writesRegular_column rfl
      have compared := writesRegular_comparison comparison (writesRegular_literal value)
      rw [chars, List.append_assoc]
      refine column.append compared ?_
      cases comparison <;> exact noneAhead_cons.mpr (by decide)
  | @all items _ ih =>
      cases items with
      | nil => exact .keyword "true" (by decide) (by decide)
      | cons first others =>
          obtain ⟨writesFirst, writesOthers⟩ := List.forall_mem_cons.mp ih
          have others := writesRegular_joined "AND" (by decide) (by decide)
            writesOthers
          exact (writesFirst.append others (noneAhead_joined_words _)).cons (by decide) (by decide)
  | @any items _ ih =>
      cases items with
      | nil => exact .keyword "false" (by decide) (by decide)
      | cons first others =>
          obtain ⟨writesFirst, writesOthers⟩ := List.forall_mem_cons.mp ih
          have others := writesRegular_joined "OR" (by decide) (by decide)
            writesOthers
          exact (writesFirst.append others (noneAhead_joined_words _)).cons (by decide) (by decide)

/-! ## Statements -/

theorem noneAhead_conditionChars (condition : Expression) :
    NoneAhead isWordPart (conditionChars condition) := by
  unfold conditionChars
  split
  · exact noneAhead_nil _
  · exact noneAhead_cons.mpr (by decide)

theorem noneAhead_orderChars (order : List Ordering) : NoneAhead isWordPart (orderChars order) := by
  cases order with
  | nil => exact noneAhead_nil _
  | cons first others => exact noneAhead_cons.mpr (by decide)

theorem writesRegular_top (top : Option UInt32) {cs : List Char} (writes : WritesRegular cs) :
    WritesRegular (topChars top ++ cs) := by
  cases top with
  | none => exact writes
  | some n =>
      have digits : WritesRegular (Nat.toDigits 10 n.toNat) :=
        .numeral (isNumeral_toDigits n.toNat).parts
      have limited := WritesRegular.keyword_blank "TOP" (by decide) (by decide)
        (digits.append writes.blank (noneAhead_cons.mpr (by decide)))
      simpa [topChars] using limited

theorem writesRegular_columns {columns : Option (List Column)}
    (aliased : ∀ cs, columns = some cs → cs ≠ [] ∧ ∀ c ∈ cs, c.table = defaultAlias) :
    WritesRegular (columnsChars columns) := by
  cases columns with
  | none => exact WritesRegular.nil.cons (by decide) (by decide)
  | some columns =>
      refine .separated fun item member => ?_
      obtain ⟨column, among, rfl⟩ := List.mem_map.mp member
      exact writesRegular_column ((aliased columns rfl).2 column among)

/-- A condition that is left out has no words. -/
theorem writesRegular_condition {condition : Expression} (readable : condition.Readable) :
    WritesRegular (conditionChars condition) := by
  unfold conditionChars
  split
  · exact .nil
  · exact (WritesRegular.keyword_blank "WHERE" (by decide) (by decide)
      readable.writesRegular).blank

theorem writesRegular_ordering {o : Ordering} (aliased : o.column.table = defaultAlias) :
    WritesRegular o.chars := by
  have direction : WritesRegular (if o.descending then " DESC" else " ASC").toList := by
    split
    · exact (WritesRegular.keyword "DESC" (by decide) (by decide)).blank
    · exact (WritesRegular.keyword "ASC" (by decide) (by decide)).blank
  refine (writesRegular_column aliased).append direction ?_
  split <;> exact noneAhead_cons.mpr (by decide)

/-- An order that is left out has no words. -/
theorem writesRegular_order {order : List Ordering}
    (aliased : ∀ o ∈ order, o.column.table = defaultAlias) : WritesRegular (orderChars order) := by
  cases order with
  | nil => exact .nil
  | cons first others =>
      have items :
          WritesRegular (separated ", ".toList ((first :: others).map Ordering.chars)) := by
        refine .separated fun item member => ?_
        obtain ⟨o, among, rfl⟩ := List.mem_map.mp member
        exact writesRegular_ordering (aliased o among)
      have byItems := WritesRegular.keyword_blank "BY" (by decide) (by decide) items
      exact (WritesRegular.keyword_blank "ORDER" (by decide) (by decide)
        byItems).blank

/-- The words of a readable statement: `FROM` and the collection stand among regular words. -/
theorem Select.Readable.words_text {s : Select} (readable : s.Readable) :
    ∃ before behind, words s.text.toList =
        before ++ "FROM".toList :: collectionChars s.collection :: behind ∧
      (∀ w ∈ before, IsRegular w) ∧ ∀ w ∈ behind, IsRegular w := by
  have plain := isPlain_collectionChars s.collection
  have nameParts : ∀ c ∈ collectionChars s.collection, isWordPart c = true := by
    have parts := isNamePart_of_isPlain plain
    rw [String.toList_ofList] at parts
    exact fun c member => isWordPart_of_isNamePart (parts c member)
  have visible : collectionChars s.collection ≠ [] := by
    intro nothing
    rw [nothing] at plain
    cases plain
  have columns := WritesRegular.keyword_blank "SELECT" (by decide) (by decide)
    (writesRegular_top s.top (writesRegular_columns readable.columns))
  have conditions := WritesRegular.aliasName.append
    ((writesRegular_condition readable.condition).append (writesRegular_order readable.order)
      (noneAhead_orderChars s.order))
    (noneAhead_append (noneAhead_conditionChars s.condition) (noneAhead_orderChars s.order))
  obtain ⟨before, foundBefore, regularBefore⟩ := columns
    (" FROM ".toList ++ (collectionChars s.collection ++ (' ' :: (defaultAlias.toList ++
      (conditionChars s.condition ++ orderChars s.order))))) (noneAhead_cons.mpr (by decide))
  obtain ⟨behind, foundBehind, regularBehind⟩ := conditions [] (noneAhead_nil _)
  refine ⟨before, behind, ?_, regularBefore, regularBehind⟩
  rw [List.append_nil, show words [] = [] from rfl, List.append_nil] at foundBehind
  have found : words (" FROM ".toList ++ (collectionChars s.collection ++ (' ' ::
      (defaultAlias.toList ++ (conditionChars s.condition ++ orderChars s.order))))) =
        "FROM".toList :: collectionChars s.collection :: behind := by
    have blank (rest : List Char) := words_cons (c := ' ') (by decide) (by decide) rest
    rw [← foundBehind, ← blank (defaultAlias.toList ++ _), ← words_append visible nameParts
      (noneAhead_cons.mpr (by decide)), ← blank (collectionChars _ ++ _)]
    obtain ⟨fromVisible, fromParts⟩ := isWord_of_mem_keywords (show "FROM" ∈ keywords by decide)
    exact (blank _).trans
      (words_append fromVisible fromParts (noneAhead_cons.mpr (by decide)))
  rw [← found, ← foundBefore, s.toList_text, readable.aliasName]
  simp

/-- Behind an element that occurs once stands one element. -/
theorem eq_of_isInfix_of_not_mem {α : Type} {a w x : α} {before behind : List α}
    (following : [a, w] <:+: before ++ a :: x :: behind) (noneBefore : a ∉ before)
    (noneBehind : a ∉ x :: behind) : w = x := by
  induction before with
  | nil =>
      rcases List.infix_cons_iff.mp following with atOnce | later
      · exact (List.cons_prefix_cons.mp (List.cons_prefix_cons.mp atOnce).2).1
      · exact absurd (later.subset List.mem_cons_self) noneBehind
  | cons b before ih =>
      obtain ⟨other, noneBefore⟩ := List.ne_and_not_mem_of_not_mem_cons noneBefore
      rcases List.infix_cons_iff.mp following with atOnce | later
      · exact absurd (List.cons_prefix_cons.mp atOnce).1 other
      · exact ih later noneBefore

/-- No name is written bare that is not plain. -/
theorem Select.Readable.isPlain_of_isBareName {s : Select} (readable : s.Readable) {name : String}
    (bare : IsBareName s.text.toList name) : isPlain name = true := by
  obtain ⟨before, behind, found, regularBefore, regularBehind⟩ := readable.words_text
  have plain := isPlain_collectionChars s.collection
  have nameParts : ∀ c ∈ collectionChars s.collection, isNamePart c = true := by
    have parts := isNamePart_of_isPlain plain
    rwa [String.toList_ofList] at parts
  rw [IsBareName, found] at bare
  rcases bare with property | collection
  · have point : '.' ∈ defaultAlias.toList ++ '.' :: name.toList := by simp
    simp only [List.mem_append (s := before), List.mem_cons (b := "FROM".toList),
      List.mem_cons (b := collectionChars s.collection)] at property
    rcases property with property | isFrom | isCollection | property
    · exact isPlain_of_isRegular (regularBefore _ property)
    · exact absurd (isFrom ▸ point) (by decide)
    · exact absurd (nameParts '.' (isCollection ▸ point)) (by decide)
    · exact isPlain_of_isRegular (regularBehind _ property)
  · have notFrom : "FROM".toList ≠ collectionChars s.collection := by
      intro isFrom
      rw [← isFrom] at plain
      exact absurd plain (by decide)
    have noneBehind : "FROM".toList ∉ collectionChars s.collection :: behind :=
      List.not_mem_cons_of_ne_of_not_mem notFrom fun member => (regularBehind _ member).ne_from rfl
    have same := eq_of_isInfix_of_not_mem collection
      (fun member => (regularBefore _ member).ne_from rfl) noneBehind
    rwa [← same, String.ofList_toList] at plain

/-- Every word of a statement is ordinary; only the collection behind `FROM` is not regular. -/
theorem Select.Readable.isOrdinary {s : Select} (readable : s.Readable) {w : List Char}
    (member : w ∈ words s.text.toList) : IsOrdinary s.text.toList w := by
  obtain ⟨before, behind, found, regularBefore, regularBehind⟩ := readable.words_text
  have place : w ∈ before ∨ w = "FROM".toList ∨ w = collectionChars s.collection ∨ w ∈ behind := by
    simpa only [found, List.mem_append, List.mem_cons] using member
  rcases place with among | rfl | rfl | among
  · exact (regularBefore w among).isOrdinary member
  · exact .keyword (by decide)
  · have following : ["FROM".toList, collectionChars s.collection] <:+: words s.text.toList :=
      ⟨before, behind, by simp [found]⟩
    rw [← String.toList_ofList (l := collectionChars s.collection)] at following ⊢
    exact .collection (.inr following)
  · exact (regularBehind w among).isOrdinary member

/-- Of the keywords, only one can be a plain name, in some case. -/
theorem eq_where_of_isPlain {name keyword : String} (plain : isPlain name = true)
    (isKeyword : keyword ∈ keywords) (collides : Collides name keyword) : keyword = "WHERE" := by
  have reserved : ∀ k ∈ keywords, k ≠ "WHERE" →
      String.ofList (k.toList.map Char.toLower) ∈ reservedWords := by decide
  by_contra other
  have lowered := reserved keyword isKeyword other
  rw [← collides] at lowered
  unfold isPlain at plain
  split at plain
  · cases plain
  · simp [lowered] at plain

/-- The words of a compiled statement are keywords, the alias, numbers, and bare names. No bare name
is a keyword in whatever case, `WHERE` apart; a property whose name is another keyword is written in
brackets, and a collection whose name is one is called `root`. -/
theorem bareNames_of_ofQuery {m : EntityMetadata} {q : Query} {s : Select}
    (compiled : Select.ofQuery m q = .ok s) :
    (∀ w ∈ words s.text.toList, IsOrdinary s.text.toList w) ∧
    ∀ name, ∀ keyword ∈ keywords, Collides name keyword →
      (IsBareName s.text.toList name → keyword = "WHERE") ∧
      (keyword ≠ "WHERE" →
        Column.chars ⟨defaultAlias, name⟩ =
          defaultAlias.toList ++ '[' :: backslashQuoted '"' name.toList ++ [']'] ∧
        collectionChars name = rootCollection.toList) := by
  have readable := Select.readable_of_ofQuery compiled
  refine ⟨fun w member => readable.isOrdinary member, fun name keyword isKeyword collides => ?_⟩
  refine ⟨fun bare => ?_, fun other => ?_⟩
  · exact eq_where_of_isPlain (readable.isPlain_of_isBareName bare) isKeyword collides
  · have notPlain : ¬ isPlain name = true :=
      fun plain => other (eq_where_of_isPlain plain isKeyword collides)
    exact ⟨if_neg notPlain, if_neg notPlain⟩

/-- The statement of `hostileQuery` quotes the property that is called `select`. -/
theorem bareNames_of_hostileQuery : ∃ s, Select.ofQuery hostileEntity hostileQuery = .ok s ∧
    (∀ w ∈ words s.text.toList, IsOrdinary s.text.toList w) ∧
    Collides "select" "SELECT" ∧ ¬ IsBareName s.text.toList "select" ∧
    Column.chars ⟨defaultAlias, "select"⟩ =
      defaultAlias.toList ++ '[' :: backslashQuoted '"' "select".toList ++ [']'] := by
  obtain ⟨s, compiled⟩ : ∃ s, Select.ofQuery hostileEntity hostileQuery = .ok s := ⟨_, rfl⟩
  have spoken := bareNames_of_ofQuery compiled
  have collides : Collides "select" "SELECT" := by decide
  obtain ⟨notBare, written⟩ := spoken.2 "select" "SELECT" (by decide) collides
  exact ⟨s, compiled, spoken.1, collides, fun bare => absurd (notBare bare) (by decide),
    (written (by decide)).1⟩

/-- An entity that is kept in a collection called `Where`, as is one of its properties. -/
def whereEntity : EntityMetadata where
  logicalName := "place"
  externalName := "place"
  externalCollectionName := "Where"
  primaryIdAttribute := "id"
  attributes := [⟨"id", "id", .uniqueidentifier⟩, ⟨"address", "where", .string⟩]

/-- A query for one property of `whereEntity`. -/
def whereQuery : Query where
  entity := "place"
  columnSet := .only ["address"]

/-- The statement that `whereQuery` is compiled to. -/
def whereSelect : Select where
  columns := some [⟨defaultAlias, "where"⟩, ⟨defaultAlias, "id"⟩]
  collection := "Where"

/-- One keyword can be a bare name, of a property and of a collection. -/
theorem where_is_a_bare_name :
    ¬ (∀ m q s, Select.ofQuery m q = .ok s → ∀ name, IsBareName s.text.toList name →
        ∀ keyword ∈ keywords, ¬ Collides name keyword) ∧
    Select.ofQuery whereEntity whereQuery = .ok whereSelect ∧
    whereSelect.text = "SELECT a.where, a.id FROM Where a" ∧
    IsBareName whereSelect.text.toList "where" ∧ IsBareName whereSelect.text.toList "Where" := by
  have compiled : Select.ofQuery whereEntity whereQuery = .ok whereSelect := rfl
  have written : whereSelect.text = "SELECT a.where, a.id FROM Where a" := by decide +kernel
  have property : IsBareName whereSelect.text.toList "where" := by decide +kernel
  have collection : IsBareName whereSelect.text.toList "Where" := by decide +kernel
  refine ⟨fun law => ?_, compiled, written, property, collection⟩
  exact law _ _ _ compiled "where" property "WHERE" (by decide) (by decide)

end EntityGateway.Sql
