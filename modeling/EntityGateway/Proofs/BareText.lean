import EntityGateway.Number.Layout
import EntityGateway.Query.TypedText
import EntityGateway.Sql.Printer
import EntityGateway.Time.Instant
import EntityGateway.Uuid
import EntityGateway.Value

/-!
# Bare text

Numbers, identifiers and instants are written without quotes, so only the characters they consist of
keep them apart from the text around them. `IsNumeral` holds of every text that is written for a
number, and of every text of a caller that is taken for one; `IsBare` also holds of the texts of
identifiers and instants. Either kind of text has a character that no word consisting of letters
has, which is why none of them can be taken for `null`, `true` or `false`. Names that are written
without quotes are identifiers of the usual kind, `isIdentifier`.
-/

namespace EntityGateway

namespace Text

/-- A character that the texts of numbers consist of. -/
def isNumeralPart (c : Char) : Bool :=
  c.isDigit || c = '.' || c = '_' || c = '+' || c = '-' || c = 'e' || c = 'E'

/-- The text can be written for a number. -/
structure IsNumeral (cs : List Char) : Prop where
  parts : ∀ c ∈ cs, isNumeralPart c = true
  digit : ∃ c ∈ cs, c.isDigit = true

/-- A character that texts written without quotes consist of. -/
def isBarePart (c : Char) : Bool :=
  c.isAlphanum || c = '.' || c = '_' || c = '+' || c = '-' || c = ':'

/-- The text can be written without quotes, and is no word. -/
structure IsBare (cs : List Char) : Prop where
  parts : ∀ c ∈ cs, isBarePart c = true
  mark : ∃ c ∈ cs, c.isAlpha = false

theorem isNumeralPart_of_isDigit {c : Char} (digit : c.isDigit = true) :
    isNumeralPart c = true := by
  simp [isNumeralPart, digit]

theorem isBarePart_of_isNumeralPart {c : Char} (part : isNumeralPart c = true) :
    isBarePart c = true := by
  simp only [isNumeralPart, Bool.or_eq_true, decide_eq_true_eq] at part
  rcases part with (((((digit | rfl) | rfl) | rfl) | rfl) | rfl) | rfl
  · simp [isBarePart, Char.isAlphanum, digit]
  all_goals decide

theorem isAlpha_eq_false_of_isDigit {c : Char} (digit : c.isDigit = true) :
    c.isAlpha = false := by
  have atMostNine : c.val.toNat ≤ '9'.val.toNat := by
    simp only [Char.isDigit, Bool.and_eq_true, decide_eq_true_eq] at digit
    exact UInt32.le_iff_toNat_le.mp digit.2
  have alpha : c.isAlpha = (c.isUpper || c.isLower) := rfl
  have upper : c.isUpper = decide ('A'.val ≤ c.val ∧ c.val ≤ 'Z'.val) := rfl
  have lower : c.isLower = (decide ('a'.val ≤ c.val) && decide (c.val ≤ 'z'.val)) := rfl
  have nine : '9'.val.toNat = 57 := rfl
  have upperA : 'A'.val.toNat = 65 := rfl
  have lowerA : 'a'.val.toNat = 97 := rfl
  rw [alpha, upper, lower]
  simp only [Bool.or_eq_false_iff, Bool.and_eq_false_imp, decide_eq_true_eq,
    decide_eq_false_iff_not, UInt32.le_iff_toNat_le]
  omega

/-- Numerals need no quotes. -/
theorem IsNumeral.isBare {cs : List Char} (numeral : IsNumeral cs) : IsBare cs where
  parts c member := isBarePart_of_isNumeralPart (numeral.parts c member)
  mark := by
    obtain ⟨c, member, digit⟩ := numeral.digit
    exact ⟨c, member, isAlpha_eq_false_of_isDigit digit⟩

/-- Bare text has no blanks, so trimming leaves it alone. -/
theorem isBlank_of_isBarePart {c : Char} (part : isBarePart c = true) : isBlank c = false := by
  have visible : 33 ≤ c.val.toNat ∧ c.val.toNat ≤ 126 := by
    have alphanum : c.isAlphanum = (decide ('A'.val ≤ c.val ∧ c.val ≤ 'Z'.val) ||
        (decide ('a'.val ≤ c.val) && decide (c.val ≤ 'z'.val)) ||
        (decide ('0'.val ≤ c.val) && decide (c.val ≤ '9'.val))) := rfl
    simp only [isBarePart, alphanum, Bool.or_eq_true, Bool.and_eq_true, decide_eq_true_eq,
      UInt32.le_iff_toNat_le, or_assoc] at part
    rcases part with range | range | range | rfl | rfl | rfl | rfl | rfl
    · exact ⟨Nat.le_trans (by decide) range.1, Nat.le_trans range.2 (by decide)⟩
    · exact ⟨Nat.le_trans (by decide) range.1, Nat.le_trans range.2 (by decide)⟩
    · exact ⟨Nat.le_trans (by decide) range.1, Nat.le_trans range.2 (by decide)⟩
    all_goals decide
  simp only [isBlank, Char.toNat, Bool.or_eq_false_iff, Bool.and_eq_false_imp, decide_eq_true_eq,
    decide_eq_false_iff_not, beq_eq_false_iff_ne]
  omega

/-- A text that can be written without quotes has no blanks around it. -/
theorem trim_of_isBare {s : String} (bare : IsBare s.toList) : trim s = s := by
  have visible {cs : List Char} (parts : ∀ c ∈ cs, isBarePart c = true) :
      cs.dropWhile isBlank = cs := by
    cases cs with
    | nil => rfl
    | cons c cs =>
        rw [List.dropWhile_cons_of_neg]
        simp [isBlank_of_isBarePart (parts c List.mem_cons_self)]
  have reversed : ∀ c ∈ s.toList.reverse, isBarePart c = true := fun c member =>
    bare.parts c (List.mem_reverse.mp member)
  rw [trim, trimStart, visible bare.parts, trimEnd, visible reversed, List.reverse_reverse,
    String.ofList_toList]

theorem IsNumeral.cons {c : Char} {cs : List Char} (numeral : IsNumeral cs)
    (part : isNumeralPart c = true) : IsNumeral (c :: cs) where
  parts d member := by
    rcases List.mem_cons.mp member with rfl | member
    · exact part
    · exact numeral.parts d member
  digit := by
    obtain ⟨d, member, digit⟩ := numeral.digit
    exact ⟨d, List.mem_cons_of_mem c member, digit⟩

theorem IsNumeral.append {cs more : List Char} (numeral : IsNumeral cs)
    (parts : ∀ c ∈ more, isNumeralPart c = true) : IsNumeral (cs ++ more) where
  parts c member := by
    rcases List.mem_append.mp member with member | member
    · exact numeral.parts c member
    · exact parts c member
  digit := by
    obtain ⟨c, member, digit⟩ := numeral.digit
    exact ⟨c, List.mem_append_left more member, digit⟩

/-- A point may be put anywhere into a numeral. -/
theorem IsNumeral.withPoint {cs : List Char} (numeral : IsNumeral cs) (n : Nat) :
    IsNumeral (cs.take n ++ '.' :: cs.drop n) where
  parts c member := by
    rcases List.mem_append.mp member with member | member
    · exact numeral.parts c (List.mem_of_mem_take member)
    · rcases List.mem_cons.mp member with rfl | member
      · decide
      · exact numeral.parts c (List.mem_of_mem_drop member)
  digit := by
    obtain ⟨c, member, digit⟩ := numeral.digit
    rw [← List.take_append_drop n cs] at member
    refine ⟨c, ?_, digit⟩
    simp only [List.mem_append, List.mem_cons] at member ⊢
    exact member.imp id .inr

/-- Zeros may be put before a numeral. -/
theorem IsNumeral.withZeros {cs : List Char} (numeral : IsNumeral cs) (n : Nat) :
    IsNumeral (List.replicate n '0' ++ cs) := by
  induction n with
  | zero => exact numeral
  | succ n ih => exact ih.cons (by decide)

/-- Digits are a numeral. -/
theorem isNumeral_toDigits (n : Nat) : IsNumeral (Nat.toDigits 10 n) where
  parts _ member :=
    isNumeralPart_of_isDigit (Nat.isDigit_of_mem_toDigits (by decide) (by decide) member)
  digit := by
    obtain ⟨c, member⟩ := List.exists_mem_of_ne_nil _ (Nat.toDigits_ne_nil (n := n) (b := 10))
    exact ⟨c, member, Nat.isDigit_of_mem_toDigits (by decide) (by decide) member⟩

/-! ## Identifiers -/

/-- The name is an identifier: it consists of letters and digits of the ASCII range and underscores,
and begins with no digit. -/
def isIdentifier (name : String) : Bool :=
  match name.toList with
  | [] => false
  | c :: rest => Sql.isNameStart c && rest.all Sql.isNamePart

theorem isNamePart_of_isNameStart {c : Char} (start : Sql.isNameStart c = true) :
    Sql.isNamePart c = true := by
  simp only [Sql.isNameStart, Sql.isNamePart, Char.isAlphanum, Bool.or_eq_true] at start ⊢
  exact start.imp .inl id

/-- All characters of an identifier are parts of names. -/
theorem isNamePart_of_isIdentifier {name : String} (identifier : isIdentifier name = true) :
    ∀ c ∈ name.toList, Sql.isNamePart c = true := by
  simp only [isIdentifier] at identifier
  split at identifier
  · cases identifier
  · rename_i first others characters
    simp only [Bool.and_eq_true] at identifier
    rw [characters]
    exact List.forall_mem_cons.mpr
      ⟨isNamePart_of_isNameStart identifier.1, List.all_eq_true.mp identifier.2⟩

/-- A name that the document store takes bare is an identifier. -/
theorem isIdentifier_of_isPlain {name : String} (plain : Sql.isPlain name = true) :
    isIdentifier name = true := by
  unfold Sql.isPlain at plain
  unfold isIdentifier
  cases characters : name.toList with
  | nil =>
      rw [characters] at plain
      cases plain
  | cons first others =>
      rw [characters] at plain
      simp only [Bool.and_eq_true] at plain
      exact Bool.and_eq_true_iff.mpr plain.1

end Text

open Text

/-! ## Written numbers -/

/-- Integers are written as numerals, negative ones too. -/
theorem Value.isNumeral_integerText (n : Int) : IsNumeral (Value.integerText n).toList := by
  simp only [Value.integerText, String.toList_ofList]
  split
  · exact (isNumeral_toDigits n.natAbs).cons (by decide)
  · exact isNumeral_toDigits n.natAbs

theorem Double.Digits.isNumeral_positional (d : Double.Digits) : IsNumeral (d.positional []) := by
  have digits := isNumeral_toDigits d.digits
  simp only [Double.Digits.positional, List.append_nil]
  split
  · refine digits.append fun c member => ?_
    rw [List.eq_of_mem_replicate member]
    decide
  · split
    · exact digits.withPoint _
    · exact ((digits.withZeros _).cons (by decide)).cons (by decide)

/-- A finite double is written as a numeral; infinities and what is no number are not. -/
theorem Double.isNumeral_plain {d : Double} (finite : d.isFinite = true) : IsNumeral d.plain := by
  have size : IsNumeral (plainLayout.write (d.shortest plainLayout.tie)) := by
    simpa [Layout.write, plainLayout] using Digits.isNumeral_positional _
  simp only [Double.plain, finite, if_true, Layout.writeFinite]
  split
  · exact size.cons (by decide)
  · exact size

/-- Decimals are written as numerals. -/
theorem Decimal.isNumeral_text (d : Decimal) : IsNumeral d.text.toList := by
  have unsigned : IsNumeral (unsignedChars d.mantissa d.scale) := by
    have padded := (isNumeral_toDigits d.mantissa).withZeros
      (d.scale + 1 - (Nat.toDigits 10 d.mantissa).length)
    simp only [unsignedChars]
    split
    · exact padded
    · exact padded.withPoint _
  simp only [Decimal.text, Decimal.chars, String.toList_ofList]
  split
  · exact unsigned.cons (by decide)
  · exact unsigned

/-! ## Numbers that callers write -/

namespace Decimal

theorem isDigit_of_digit? {c : Char} {n : Nat} (read : digit? c = some n) : c.isDigit = true := by
  simp only [digit?] at read
  split at read
  · rename_i range
    simp only [Char.isDigit, Bool.and_eq_true, decide_eq_true_eq]
    exact ⟨range.1, range.2⟩
  · cases read

theorem isNumeralPart_of_isIgnoredDigit {c : Char} (ignored : isIgnoredDigit c = true) :
    isNumeralPart c = true := by
  simp only [isIgnoredDigit, Bool.or_eq_true, Option.isSome_iff_exists, decide_eq_true_eq]
    at ignored
  rcases ignored with ⟨n, read⟩ | rfl
  · exact isNumeralPart_of_isDigit (isDigit_of_digit? read)
  · decide

/-- What is read as the digits of a decimal consists of characters of numerals, and has a digit
unless one was seen before. -/
theorem parts_of_readDigits? {negative : Bool} {p : Partial} {cs : List Char} {d : Decimal}
    (read : readDigits? negative p cs = some d) :
    (∀ c ∈ cs, isNumeralPart c = true) ∧
      (p.digitSeen = false → ∃ c ∈ cs, c.isDigit = true) := by
  induction cs generalizing p with
  | nil =>
      refine ⟨by simp, fun unseen => ?_⟩
      simp [readDigits?, unseen] at read
  | cons c rest ih =>
      have ignoredParts (ignored : rest.all isIgnoredDigit = true) :
          ∀ d ∈ rest, isNumeralPart d = true := fun d member =>
        isNumeralPart_of_isIgnoredDigit (List.all_eq_true.mp ignored d member)
      suffices parts : isNumeralPart c = true ∧ (∀ d ∈ rest, isNumeralPart d = true) ∧
          (p.digitSeen = false → c.isDigit = true ∨ ∃ d ∈ rest, d.isDigit = true) by
        simpa using ⟨⟨parts.1, parts.2.1⟩, parts.2.2⟩
      rw [readDigits?] at read
      cases digitRead : digit? c with
      | some n =>
          have digit := isDigit_of_digit? digitRead
          refine ⟨isNumeralPart_of_isDigit digit, ?_, fun _ => .inl digit⟩
          simp only [digitRead] at read
          split at read
          · split at read
            · split at read
              · exact ignoredParts ‹_›
              · cases read
            · exact (ih read).1
          · split at read
            · cases read
            · exact (ih read).1
      | none =>
          simp only [digitRead] at read
          split at read
          · rename_i point
            obtain ⟨rfl, -⟩ := point
            exact ⟨by decide, (ih read).1, fun unseen => .inr ((ih read).2 unseen)⟩
          · split at read
            · rename_i underscore
              obtain ⟨rfl, seen⟩ := underscore
              refine ⟨by decide, ?_, fun unseen => by simp [unseen] at seen⟩
              split at read
              · split at read
                · exact ignoredParts ‹_›
                · cases read
              · exact (ih read).1
            · cases read

theorem isNumeral_of_readDigits? {negative : Bool} {cs : List Char} {d : Decimal}
    (read : readDigits? negative {} cs = some d) : IsNumeral cs :=
  ⟨(parts_of_readDigits? read).1, (parts_of_readDigits? read).2 rfl⟩

/-- Whatever is read as a plain decimal is a numeral. -/
theorem isNumeral_of_readPlain? {cs : List Char} {d : Decimal}
    (read : readPlain? cs = some d) : IsNumeral cs := by
  simp only [readPlain?] at read
  split at read
  · exact (isNumeral_of_readDigits? read).cons (by decide)
  · exact (isNumeral_of_readDigits? read).cons (by decide)
  · exact isNumeral_of_readDigits? read

/-- A fold that never recovers from a failure, and that ends well, went well at each item. -/
theorem forall_of_foldl_eq_some {α β : Type} {step : Option α → β → Option α} {p : β → Prop}
    (noneStays : ∀ b, step none b = none) (someNeeds : ∀ a b r, step (some a) b = some r → p b)
    {bs : List β} {start : Option α} {r : α} (folded : bs.foldl step start = some r) :
    ∀ b ∈ bs, p b := by
  have noneFolded (bs : List β) : bs.foldl step none = none := by
    induction bs with
    | nil => rfl
    | cons b bs ih => rw [List.foldl_cons, noneStays, ih]
  induction bs generalizing start with
  | nil => simp
  | cons b bs ih =>
      rw [List.foldl_cons] at folded
      cases stepped : step start b with
      | none => rw [stepped, noneFolded] at folded; cases folded
      | some a =>
          rw [stepped] at folded
          have first : p b := by
            cases start with
            | none => rw [noneStays] at stepped; cases stepped
            | some s => exact someNeeds s b a stepped
          exact List.forall_mem_cons.mpr ⟨first, ih folded⟩

theorem parts_of_readExponent? {cs : List Char} {n : Nat} (read : readExponent? cs = some n) :
    ∀ c ∈ cs, isNumeralPart c = true := by
  have parts {digits : List Char}
      (folded : digits.foldl (fun (value : Option Nat) c => do
        let v ← value
        let d ← digit? c
        some (v * 10 + d)) (some 0) = some n) : ∀ c ∈ digits, isNumeralPart c = true := by
    refine forall_of_foldl_eq_some (fun _ => rfl) (fun value c r stepped => ?_) folded
    obtain ⟨digit, digitRead, -⟩ :=
      Option.bind_eq_some_iff.mp (show (digit? c).bind _ = some r from stepped)
    exact isNumeralPart_of_isDigit (isDigit_of_digit? digitRead)
  simp only [readExponent?, Option.ite_none_left_eq_some] at read
  split at read
  · exact List.forall_mem_cons.mpr ⟨by decide, parts read.2⟩
  · exact parts read.2

/-- Whatever is read as a decimal with an exponent is a numeral. -/
theorem isNumeral_of_readScientific? {cs : List Char} {d : Decimal}
    (read : readScientific? cs = some d) : IsNumeral cs := by
  simp only [readScientific?, Option.bind_eq_bind, Option.bind_eq_some_iff] at read
  obtain ⟨mantissa, mantissaRead, read⟩ := read
  have numeral := isNumeral_of_readPlain? mantissaRead
  rw [← List.takeWhile_append_dropWhile (p := fun c => !(c = 'e' || c = 'E')) (l := cs)]
  refine numeral.append ?_
  have markIsPart {mark : Char} {rest : List Char}
      (after : cs.dropWhile (fun c => !(c = 'e' || c = 'E')) = mark :: rest) :
      isNumeralPart mark = true := by
    have isMark := List.head?_dropWhile_not (fun c => !(c = 'e' || c = 'E')) cs
    simp only [after, List.head?_cons, Bool.not_eq_false', Bool.or_eq_true, decide_eq_true_eq]
      at isMark
    rcases isMark with rfl | rfl <;> decide
  split at read
  · rename_i mark digits after
    obtain ⟨exponent, exponentRead, -⟩ := Option.bind_eq_some_iff.mp read
    rw [after]
    exact List.forall_mem_cons.mpr ⟨markIsPart after,
      List.forall_mem_cons.mpr ⟨by decide, parts_of_readExponent? exponentRead⟩⟩
  · rename_i mark digits _ after
    obtain ⟨exponent, exponentRead, -⟩ := Option.bind_eq_some_iff.mp read
    rw [after]
    exact List.forall_mem_cons.mpr ⟨markIsPart after, parts_of_readExponent? exponentRead⟩
  · cases read

/-- Whatever text is read as a decimal is a numeral: the reader takes signs, digits, underscores, a
point and an exponent, none of which ends a number in a text. -/
theorem isNumeral_of_read? {s : String} {d : Decimal} (read : Decimal.read? s = some d) :
    IsNumeral s.toList := by
  simp only [Decimal.read?] at read
  cases plain : readPlain? s.toList with
  | some _ => exact isNumeral_of_readPlain? plain
  | none => exact isNumeral_of_readScientific? (by simpa [plain] using read)

end Decimal

/-- A text that is taken for a number is a numeral once the blanks around it are gone. -/
theorem isNumeral_of_numericText? {s t : String} (read : numericText? s = some t) :
    IsNumeral t.toList := by
  obtain ⟨d, decimalRead, rfl⟩ := Option.map_eq_some_iff.mp read
  exact Decimal.isNumeral_of_read? decimalRead

/-! ## Written identifiers and instants -/

theorem Uuid.isAlphanum_digitChar {n : Nat} (digit : n < 16) :
    (Uuid.digitChar n).isAlphanum = true := by
  have all : ∀ n < 16, (Uuid.digitChar n).isAlphanum = true := by decide
  exact all n digit

theorem Uuid.isBarePart_of_mem_hexDigits {n count : Nat} :
    ∀ c ∈ Uuid.hexDigits n count, isBarePart c = true := by
  induction count generalizing n with
  | zero => simp [Uuid.hexDigits]
  | succ count ih =>
      intro c member
      rcases List.mem_append.mp member with member | member
      · exact ih c member
      · rw [List.mem_singleton.mp member]
        simp [isBarePart, Uuid.isAlphanum_digitChar (Nat.mod_lt n (by decide : 0 < 16))]

/-- Identifiers of records need no quotes. -/
theorem Uuid.isBare_text (u : Uuid) : IsBare u.text.toList where
  parts := by
    have digits : ∀ c ∈ Uuid.hexDigits u.bits.toNat 32, isBarePart c = true :=
      Uuid.isBarePart_of_mem_hexDigits
    have group (start count : Nat) :
        ∀ c ∈ ((Uuid.hexDigits u.bits.toNat 32).drop start).take count, isBarePart c = true :=
      fun c member => digits c (List.mem_of_mem_drop (List.mem_of_mem_take member))
    have hyphen : isBarePart '-' = true := by decide
    simp only [Uuid.text, Uuid.chars, String.toList_ofList, List.forall_mem_append,
      List.forall_mem_cons]
    exact ⟨⟨⟨⟨fun c member => digits c (List.mem_of_mem_take member), hyphen, group 8 4⟩,
      hyphen, group 12 4⟩, hyphen, group 16 4⟩,
      hyphen, fun c member => digits c (List.mem_of_mem_drop member)⟩
  mark := ⟨'-', by simp [Uuid.text, Uuid.chars], by decide⟩

theorem Instant.isBarePart_of_mem_padded {width n : Nat} :
    ∀ c ∈ Instant.padded width n, isBarePart c = true :=
  ((isNumeral_toDigits n).withZeros _).isBare.parts

/-- Years need no quotes, whether they have a sign or not. -/
theorem Instant.isBarePart_of_mem_yearChars {year : Int} :
    ∀ c ∈ Instant.yearChars year, isBarePart c = true := by
  simp only [Instant.yearChars]
  split
  · exact Instant.isBarePart_of_mem_padded
  · refine List.forall_mem_cons.mpr ⟨?_, Instant.isBarePart_of_mem_padded⟩
    split <;> decide

theorem Instant.isBarePart_of_mem_fractionChars {nanos : Nat} :
    ∀ c ∈ Instant.fractionChars nanos, isBarePart c = true := by
  have point {digits : List Char} (parts : ∀ c ∈ digits, isBarePart c = true) :
      ∀ c ∈ '.' :: digits, isBarePart c = true := List.forall_mem_cons.mpr ⟨by decide, parts⟩
  simp only [Instant.fractionChars]
  split
  · simp
  · split
    · exact point Instant.isBarePart_of_mem_padded
    · split
      · exact point Instant.isBarePart_of_mem_padded
      · exact point Instant.isBarePart_of_mem_padded

/-- Instants need no quotes. -/
theorem Instant.isBare_text (i : Instant) : IsBare i.text.toList where
  parts := by
    have number (n : Nat) : ∀ c ∈ Instant.padded 2 n, isBarePart c = true :=
      Instant.isBarePart_of_mem_padded
    have hyphen : isBarePart '-' = true := by decide
    have colon : isBarePart ':' = true := by decide
    simp only [Instant.text, Instant.chars, Instant.clockChars, String.toList_ofList,
      List.forall_mem_append, List.forall_mem_cons]
    exact ⟨⟨⟨⟨⟨Instant.isBarePart_of_mem_yearChars, hyphen, number _⟩, hyphen, number _⟩,
      by decide, ⟨number _, colon, number _⟩, colon, number _⟩,
      Instant.isBarePart_of_mem_fractionChars⟩, by decide, by simp⟩
  mark := ⟨'-', by simp [Instant.text, Instant.chars], by decide⟩

end EntityGateway
