import EntityGateway.Text.Quoted
import EntityGateway.Text.Separated
import Mathlib.Data.List.Forall2

/-!
# Scanning written text

The scans that readers of written text are made of. A scan takes what it knows from the front of a
text and hands back the rest. Each scan comes with the law that it undoes the matching writer, in
front of every rest that cannot be taken for more of the same. These laws are what keeps a reader in
step with a writer through strings that look like the text around them.
-/

namespace EntityGateway.Text

/-- No character of the class begins the text. -/
def NoneAhead (p : Char → Bool) (cs : List Char) : Prop :=
  ∀ c ∈ cs.head?, p c = false

/-- The text does not begin with the character. -/
abbrev NotAhead (c : Char) (cs : List Char) : Prop :=
  NoneAhead (· == c) cs

@[simp] theorem noneAhead_nil (p : Char → Bool) : NoneAhead p [] := by
  simp [NoneAhead]

@[simp] theorem noneAhead_cons {p : Char → Bool} {c : Char} {cs : List Char} :
    NoneAhead p (c :: cs) ↔ p c = false := by
  simp [NoneAhead]

instance (p : Char → Bool) (cs : List Char) : Decidable (NoneAhead p cs) :=
  match cs with
  | [] => isTrue (noneAhead_nil p)
  | c :: _ => decidable_of_iff (p c = false) noneAhead_cons.symm

/-- What does not begin a text does not begin it in front of any rest. -/
theorem NoneAhead.append {p : Char → Bool} {word : List Char} (begins : NoneAhead p word)
    (visible : word ≠ []) (rest : List Char) : NoneAhead p (word ++ rest) := by
  obtain ⟨c, word, rfl⟩ := List.exists_cons_of_ne_nil visible
  exact begins

theorem noneAhead_append {p : Char → Bool} {cs ds : List Char} (first : NoneAhead p cs)
    (second : NoneAhead p ds) : NoneAhead p (cs ++ ds) := by
  cases cs with
  | nil => exact second
  | cons c cs => exact first

/-! ## Words of a class of characters -/

/-- The longest beginning whose characters are all of the class, and the rest. -/
def scanWhile (p : Char → Bool) (cs : List Char) : List Char × List Char :=
  (cs.takeWhile p, cs.dropWhile p)

/-- Characters of a class are read up to the first other one. -/
theorem scanWhile_append {p : Char → Bool} {word rest : List Char}
    (inside : ∀ c ∈ word, p c = true) (stops : NoneAhead p rest) :
    scanWhile p (word ++ rest) = (word, rest) := by
  rw [scanWhile, List.takeWhile_append_of_pos inside, List.dropWhile_append_of_pos inside]
  cases rest with
  | nil => simp
  | cons c rest =>
      rw [noneAhead_cons] at stops
      simp [stops]

/-! ## Expected text -/

/-- An expected text is taken from the front. -/
theorem isPrefixOf?_append (expected rest : List Char) :
    expected.isPrefixOf? (expected ++ rest) = some rest := by
  induction expected with
  | nil => rfl
  | cons c expected ih =>
      rw [List.cons_append, List.isPrefixOf?, if_pos (beq_self_eq_true c), ih]

/-- Of two different characters, a text that begins with one is no text that begins with the
other. -/
theorem isPrefixOf?_cons_of_ne {c d : Char} (different : c ≠ d) (expected rest : List Char) :
    (c :: expected).isPrefixOf? (d :: rest) = none := by
  simp [List.isPrefixOf?, different]

/-- Two texts differ before either ends. -/
def Apart (cs ds : List Char) : Prop :=
  cs.take ds.length ≠ ds.take cs.length

instance (cs ds : List Char) : Decidable (Apart cs ds) :=
  inferInstanceAs (Decidable (cs.take ds.length ≠ ds.take cs.length))

/-- A text is not found where a word stands that differs from it in some place. -/
theorem isPrefixOf?_of_apart {expected word : List Char} (apart : Apart expected word)
    (rest : List Char) : expected.isPrefixOf? (word ++ rest) = none := by
  unfold Apart at apart
  induction expected generalizing word with
  | nil => simp at apart
  | cons c expected ih =>
      cases word with
      | nil => simp at apart
      | cons d word =>
          by_cases same : c = d
          · subst same
            have tails : expected.take word.length ≠ word.take expected.length := by
              simpa using apart
            simpa [List.isPrefixOf?] using ih tails
          · exact isPrefixOf?_cons_of_ne same expected (word ++ rest)

/-! ## Text between quotes -/

/-- Scans the body of a backslash form and its closing quote. -/
def scanBackslashed (quote : Char) : List Char → Option (List Char × List Char)
  | [] => none
  | c :: rest =>
    if c = quote then some ([], rest)
    else if c = '\\' then
      match rest with
      | [] => none
      | d :: rest => (scanBackslashed quote rest).map fun (body, rest) => (d :: body, rest)
    else (scanBackslashed quote rest).map fun (body, rest) => (c :: body, rest)

theorem scanBackslashed_quote (quote : Char) (rest : List Char) :
    scanBackslashed quote (quote :: rest) = some ([], rest) := by
  rw [scanBackslashed.eq_def]
  simp

/-- What stands behind a backslash is read as it is, be it a quote. -/
theorem scanBackslashed_escape {quote : Char} (notBackslash : '\\' ≠ quote) (c : Char)
    (rest : List Char) :
    scanBackslashed quote ('\\' :: c :: rest) =
      (scanBackslashed quote rest).map fun (body, rest) => (c :: body, rest) := by
  rw [scanBackslashed]
  simp [notBackslash]

theorem scanBackslashed_plain {quote c : Char} (notQuote : c ≠ quote) (notBackslash : c ≠ '\\')
    (rest : List Char) :
    scanBackslashed quote (c :: rest) =
      (scanBackslashed quote rest).map fun (body, rest) => (c :: body, rest) := by
  rw [scanBackslashed.eq_def]
  simp [notQuote, notBackslash]

/-- The closing quote of a backslash form is found behind whatever the body holds, quotes and
backslashes included. -/
theorem scanBackslashed_append {quote : Char} (notBackslash : '\\' ≠ quote)
    (body rest : List Char) :
    scanBackslashed quote (backslashed quote body ++ quote :: rest) = some (body, rest) := by
  induction body with
  | nil => exact scanBackslashed_quote quote rest
  | cons c body ih =>
      by_cases escaped : c = quote ∨ c = '\\'
      · simp only [backslashed, if_pos escaped, List.cons_append]
        simp [scanBackslashed_escape notBackslash, ih]
      · have plain := not_or.mp escaped
        simp only [backslashed, if_neg escaped, List.cons_append]
        simp [scanBackslashed_plain plain.1 plain.2, ih]

/-- Scans the body of a doubled form and its closing quote, which is one that no other quote
follows. -/
def scanDoubled (quote : Char) : List Char → Option (List Char × List Char)
  | [] => none
  | c :: rest =>
    if c = quote then
      match rest with
      | [] => some ([], [])
      | d :: rest =>
        if d = quote then (scanDoubled quote rest).map fun (body, rest) => (quote :: body, rest)
        else some ([], d :: rest)
    else (scanDoubled quote rest).map fun (body, rest) => (c :: body, rest)

theorem scanDoubled_quote {quote : Char} {rest : List Char} (stops : NotAhead quote rest) :
    scanDoubled quote (quote :: rest) = some ([], rest) := by
  cases rest with
  | nil => simp [scanDoubled]
  | cons d rest =>
      have other : d ≠ quote := by simpa using stops
      simp [scanDoubled, other]

/-- Two quotes are read as one. -/
theorem scanDoubled_pair (quote : Char) (rest : List Char) :
    scanDoubled quote (quote :: quote :: rest) =
      (scanDoubled quote rest).map fun (body, rest) => (quote :: body, rest) := by
  simp [scanDoubled]

theorem scanDoubled_plain {quote c : Char} (notQuote : c ≠ quote) (rest : List Char) :
    scanDoubled quote (c :: rest) =
      (scanDoubled quote rest).map fun (body, rest) => (c :: body, rest) := by
  rw [scanDoubled.eq_def]
  simp [notQuote]

/-- The closing quote of a doubled form is found behind whatever the body holds, unless another
quote follows it. -/
theorem scanDoubled_append {quote : Char} (body : List Char) {rest : List Char}
    (stops : NotAhead quote rest) :
    scanDoubled quote (doubled quote body ++ quote :: rest) = some (body, rest) := by
  induction body with
  | nil => exact scanDoubled_quote stops
  | cons c body ih =>
      by_cases isQuote : c = quote
      · simp only [doubled, if_pos isQuote, List.cons_append]
        simp [scanDoubled_pair, ih, isQuote]
      · simp only [doubled, if_neg isQuote, List.cons_append]
        simp [scanDoubled_plain isQuote, ih]

/-! ## Separated items -/

/-- Scans items with a separator between them; `fuel` bounds their number. -/
def scanSeparated {α : Type} (item : List Char → Option (α × List Char)) (separator : List Char) :
    Nat → List Char → Option (List α × List Char)
  | 0, _ => none
  | fuel + 1, cs => do
    let (first, rest) ← item cs
    match separator.isPrefixOf? rest with
    | none => some ([first], rest)
    | some rest => do
      let (others, rest) ← scanSeparated item separator fuel rest
      some (first :: others, rest)

/-- Scanning separated items gives each as its own scan gives it. The separator and the rest must be
such that an item ends before them. -/
theorem scanSeparated_append {α β : Type} {write : α → List Char} {meant : α → β}
    {item : List Char → Option (β × List Char)} {separator rest : List Char}
    {ends : List Char → Prop} (separatorEnds : ∀ cs, ends (separator ++ cs))
    (restEnds : ends rest) (apart : separator.isPrefixOf? rest = none)
    (first : α) (others : List α)
    (scans : ∀ x ∈ first :: others, ∀ cs, ends cs → item (write x ++ cs) = some (meant x, cs))
    {fuel : Nat} (enough : others.length < fuel) :
    scanSeparated item separator fuel
        (separated separator ((first :: others).map write) ++ rest) =
      some ((first :: others).map meant, rest) := by
  -- the first item is generalized as well: each further item takes its turn as the first
  induction others generalizing first fuel with
  | nil =>
      obtain ⟨fuel, rfl⟩ := Nat.exists_eq_add_of_lt enough
      have scanned := scans first (by simp) rest restEnds
      simp [separated, scanSeparated, scanned, apart]
  | cons second others ih =>
      obtain ⟨fuel, rfl⟩ : ∃ n, fuel = n + 1 := ⟨fuel - 1, by omega⟩
      have scanned := scans first (by simp)
      have further : scanSeparated item separator fuel
          (separated separator ((second :: others).map write) ++ rest) =
            some ((second :: others).map meant, rest) :=
        ih second (fun x member => scans x (by simp [member])) (by simpa using enough)
      simp only [separated, List.map_cons, List.flatMap_cons, List.append_assoc] at further ⊢
      simp [scanSeparated, scanned _ (separatorEnds _), isPrefixOf?_append, further]

/-- There are no more separated items than characters, the first item apart. -/
theorem length_le_length_separated {separator : List Char} (visible : separator ≠ [])
    (first : List Char) (others : List (List Char)) :
    others.length ≤ (separated separator (first :: others)).length := by
  have one : 1 ≤ separator.length := List.length_pos_iff.mpr visible
  induction others generalizing first with
  | nil => simp
  | cons second others ih =>
      have shorter := ih second
      simp only [separated, List.flatMap_cons, List.length_append, List.length_cons] at shorter ⊢
      omega

end EntityGateway.Text
