import EntityGateway.Json.Printer
import EntityGateway.Json.Reader
import EntityGateway.Proofs.BareText
import EntityGateway.Proofs.Scan

/-!
# Words that were written

The words of a written JSON text are scanned as what they were written for: a string as the string,
whatever quotes, backslashes and control characters it holds, and an integer as the integer. The
text after a number must not go on with what a number may have.
-/

namespace EntityGateway

open Json Scanner Text

/-! ## Strings -/

namespace Scanner

/-- Each of the digits that control characters are written with is read as itself. -/
theorem hexFour?_hexDigit {n : Nat} (small : n < 0x20) :
    hexFour? '0' '0' (Json.hexDigit (n / 16)) (Json.hexDigit (n % 16)) = some n := by
  have each : ∀ n < 0x20,
      hexFour? '0' '0' (Json.hexDigit (n / 16)) (Json.hexDigit (n % 16)) = some n := by
    decide
  exact each n small

/-- A character is scanned as the character, however it was written. -/
theorem scanCharacter_escapedChar (c : Char) (rest : List Char) :
    scanCharacter (escapedChar c ++ rest) = .word c rest := by
  unfold escapedChar
  split_ifs with quote backslash lineFeed carriageReturn tab backspace formFeed control
  · subst quote; rfl
  · subst backslash; rfl
  · subst lineFeed; rfl
  · subst carriageReturn; rfl
  · subst tab; rfl
  · subst backspace; rfl
  · subst formFeed; rfl
  · have digits := hexFour?_hexDigit control
    have notHigh : isHighSurrogate c.toNat = false := by
      simp only [isHighSurrogate, Bool.and_eq_false_iff, decide_eq_false_iff_not]
      omega
    have notLow : isLowSurrogate c.toNat = false := by
      simp only [isLowSurrogate, Bool.and_eq_false_iff, decide_eq_false_iff_not]
      omega
    simp only [List.cons_append, List.nil_append, scanCharacter, scanEscape, scanHexFour, digits,
      notHigh, notLow, Bool.false_eq_true, if_false, Char.ofNat_toNat]
  · rw [List.singleton_append, scanCharacter.eq_2 _ _ backslash, if_neg control]

/-- No written character begins like the end of a string. -/
theorem notAhead_escapedChar (c : Char) (rest : List Char) :
    NotAhead '"' (escapedChar c ++ rest) := by
  unfold escapedChar
  split_ifs <;> simp_all [NotAhead]

theorem scanString_quote (before rest : List Char) :
    scanString before ('"' :: rest) = .word (String.ofList before.reverse) rest := by
  rw [scanString]

theorem scanString_character {before cs rest : List Char} {c : Char}
    (goesOn : NotAhead '"' cs) (scanned : scanCharacter cs = .word c rest) :
    scanString before cs = scanString (c :: before) rest := by
  rw [scanString.eq_def]
  split
  · simp [NotAhead] at goesOn
  · split
    · rename_i scanned'
      rw [scanned] at scanned'
      cases scanned'
      rfl
    · rename_i scanned'
      rw [scanned] at scanned'
      cases scanned'

theorem scanString_escaped (before cs rest : List Char) :
    scanString before (cs.flatMap escapedChar ++ '"' :: rest) =
      .word (String.ofList (before.reverse ++ cs)) rest := by
  induction cs generalizing before with
  | nil => rw [List.flatMap_nil, List.nil_append, scanString_quote, List.append_nil]
  | cons c cs ih =>
      rw [List.flatMap_cons, List.append_assoc, scanString_character (notAhead_escapedChar c _)
        (scanCharacter_escapedChar c _), ih, List.reverse_cons, List.append_assoc]
      rfl

end Scanner

/-- A string that was written is read after its opening quote. -/
theorem WrittenString.read_escaped (s : String) (rest : List Char) :
    WrittenString.read (s.toList.flatMap escapedChar ++ '"' :: rest) = (.ok s, .ok rest) := by
  rw [WrittenString.read, scanString_escaped]
  simp

/-! ## Integers -/

namespace Scanner

/-- The values of digits. -/
def digitValues (cs : List Char) : List Nat :=
  cs.map fun c => c.toNat - 0x30

theorem spanDigits_append {cs rest : List Char} (digits : ∀ c ∈ cs, c.isDigit = true)
    (stops : NoneAhead isNumeralPart rest) : spanDigits (cs ++ rest) = (digitValues cs, rest) := by
  have noDigit : NoneAhead isDigit rest := by
    intro c first
    have other := stops c first
    by_contra digit
    rw [isNumeralPart_of_isDigit (Bool.not_eq_false _ ▸ digit)] at other
    cases other
  have spanned := scanWhile_append digits noDigit
  obtain ⟨taken, left⟩ := Prod.mk.inj spanned
  rw [spanDigits]
  exact Prod.ext (congrArg digitValues taken) left

theorem le_ofDigitChars (cs : List Char) (n : Nat) : n ≤ Nat.ofDigitChars 10 cs n := by
  have one : 1 ≤ 10 ^ cs.length := Nat.one_le_pow _ _ (by decide)
  rw [Nat.ofDigitChars_eq_ofDigitChars_zero]
  exact Nat.le_add_right_of_le (Nat.le_mul_of_pos_left n one)

/-- Digits are appended to a significand as long as they need no more room than there is. -/
theorem appendWhole_digitValues {cs : List Char} {significand : Nat}
    (room : Nat.ofDigitChars 10 cs significand ≤ significandBound) :
    appendWhole significand (digitValues cs) = (Nat.ofDigitChars 10 cs significand, 0) := by
  induction cs generalizing significand with
  | nil => rfl
  | cons c cs ih =>
      rw [Nat.ofDigitChars_cons] at room ⊢
      have grown := le_ofDigitChars cs (10 * significand + (c.toNat - '0'.toNat))
      have zero : '0'.toNat = 0x30 := rfl
      have fits : ¬ significandBound < significand * 10 + (c.toNat - 0x30) := by omega
      have next := ih room
      rw [zero, Nat.mul_comm] at next ⊢
      rw [digitValues, List.map_cons, appendWhole, if_neg fits]
      exact next

/-- The number of a positive integer does not begin with a zero. -/
theorem exists_toDigits_eq_cons {n : Nat} (positive : 0 < n) :
    ∃ c cs, Nat.toDigits 10 n = c :: cs ∧ 0 < c.toNat - 0x30 := by
  induction n using Nat.strongRecOn with
  | ind n ih =>
      by_cases single : n < 10
      · have each : ∀ n < 10, 0 < n → 0 < (Nat.digitChar n).toNat - 0x30 := by decide
        exact ⟨_, [], Nat.toDigits_of_lt_base single, each n single positive⟩
      · obtain ⟨c, cs, digits, leading⟩ := ih (n / 10) (by omega) (by omega)
        refine ⟨c, cs ++ [(n % 10).digitChar], ?_, leading⟩
        rw [Nat.toDigits_of_base_le (by decide) (by omega), digits, List.cons_append]

/-- The number of a natural number begins with a digit. -/
theorem exists_digit_of_toDigits (n : Nat) :
    ∃ c cs, Nat.toDigits 10 n = c :: cs ∧ isDigit c = true := by
  obtain ⟨c, cs, digits⟩ := List.exists_cons_of_ne_nil (Nat.toDigits_ne_nil (n := n) (b := 10))
  have member : c ∈ Nat.toDigits 10 n := digits ▸ List.mem_cons_self
  exact ⟨c, cs, digits, Nat.isDigit_of_mem_toDigits (by decide) (by decide) member⟩

theorem scanFraction_of_noneAhead {rest : List Char} (stops : NoneAhead isNumeralPart rest) :
    scanFraction rest = .word none rest := by
  unfold scanFraction
  split
  · cases noneAhead_cons.mp stops
  · rfl

theorem scanExponent_of_noneAhead {rest : List Char} (stops : NoneAhead isNumeralPart rest) :
    scanExponent rest = .word none rest := by
  unfold scanExponent
  split
  · rename_i c rest
    have other := noneAhead_cons.mp stops
    have noExponent : ¬ (c = 'e' ∨ c = 'E') := by
      rintro (rfl | rfl) <;> cases other
    rw [if_neg noExponent]
  · rfl

/-- The number of a natural number is scanned as its digits. -/
theorem scanUnsigned_toDigits (negative : Bool) (n : Nat) {rest : List Char}
    (stops : NoneAhead isNumeralPart rest) :
    scanUnsigned negative (Nat.toDigits 10 n ++ rest) =
      .word ⟨negative, digitValues (Nat.toDigits 10 n), none, none⟩ rest := by
  have digits : ∀ c ∈ Nat.toDigits 10 n, c.isDigit = true := fun _ member =>
    Nat.isDigit_of_mem_toDigits (by decide) (by decide) member
  rw [scanUnsigned, spanDigits_append digits stops]
  dsimp only
  rw [scanFraction_of_noneAhead stops]
  dsimp only
  rw [scanExponent_of_noneAhead stops]
  by_cases positive : 0 < n
  · obtain ⟨c, cs, written, leading⟩ := exists_toDigits_eq_cons positive
    rw [written, digitValues, List.map_cons]
    split
    · rename_i none
      cases none
    · rename_i zero
      have first := (List.cons.inj zero).1
      omega
    · rfl
  · have zero : n = 0 := by omega
    subst zero
    rfl

theorem value_toDigits {n : Nat} (bound : n < Nat.pow 2 64) :
    (Numeral.mk false (digitValues (Nat.toDigits 10 n)) none none).value = .integer n := by
  have room : Nat.ofDigitChars 10 (Nat.toDigits 10 n) 0 ≤ significandBound := by
    rw [Nat.ofDigitChars_ten_toDigits, significandBound]
    omega
  simp only [Numeral.value, appendWhole_digitValues room, Nat.ofDigitChars_ten_toDigits, if_true,
    Bool.not_false]

theorem value_neg_toDigits {n : Nat} (positive : 0 < n) (bound : n ≤ Nat.pow 2 63) :
    (Numeral.mk true (digitValues (Nat.toDigits 10 n)) none none).value = .integer (-n) := by
  have room : Nat.ofDigitChars 10 (Nat.toDigits 10 n) 0 ≤ significandBound := by
    rw [Nat.ofDigitChars_ten_toDigits, significandBound]
    have less : Nat.pow 2 63 ≤ Nat.pow 2 64 - 1 := by decide
    omega
  have exact : ¬ (n = 0 ∨ Nat.pow 2 63 < n) := by omega
  simp only [Numeral.value, appendWhole_digitValues room, Nat.ofDigitChars_ten_toDigits, if_true,
    Bool.not_true, Bool.false_eq_true, if_false, if_neg exact]

/-- An integer of JSON is scanned as the integer. -/
theorem scanNumber_integerChars {n : Int} (least : -(Nat.pow 2 63 : Int) ≤ n)
    (bound : n < Nat.pow 2 64) {rest : List Char} (stops : NoneAhead isNumeralPart rest) :
    ∃ numeral, scanNumber (integerChars n ++ rest) = .word numeral rest ∧
      numeral.value = .integer n := by
  by_cases negative : n < 0
  · rw [integerChars, if_pos negative, List.cons_append, scanNumber]
    refine ⟨_, scanUnsigned_toDigits true n.natAbs stops, ?_⟩
    rw [value_neg_toDigits (by omega) (by omega)]
    congr 1
    omega
  · rw [integerChars, if_neg negative]
    have unsigned : scanNumber (Nat.toDigits 10 n.natAbs ++ rest) =
        scanUnsigned false (Nat.toDigits 10 n.natAbs ++ rest) := by
      unfold scanNumber
      split
      · rename_i begins
        obtain ⟨c, cs, digits, digit⟩ := exists_digit_of_toDigits n.natAbs
        rw [digits, List.cons_append] at begins
        rw [(List.cons.inj begins).1] at digit
        cases digit
      · rfl
    rw [unsigned]
    refine ⟨_, scanUnsigned_toDigits false n.natAbs stops, ?_⟩
    rw [value_toDigits (by omega)]
    congr 1
    omega

end Scanner

end EntityGateway
