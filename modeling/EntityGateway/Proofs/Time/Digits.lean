import EntityGateway.Proofs.Scan
import EntityGateway.Time.InstantReader
import Mathlib.Data.List.Induction

/-!
# Numbers of a fixed number of digits

Numbers of dates and times are written with zeros in front, up to a number of digits. Such a number
is read as it was written (`fixedNumber?_padded`), and as there is one way to write it, nothing else
is read as the number (`fixedNumber?_eq_some_iff`).
-/

namespace EntityGateway.Instant

open EntityGateway.Text

/-! ## Numbers -/

theorem isDigit_iff {c : Char} : c.isDigit = true ↔ '0' ≤ c ∧ c ≤ '9' := by
  simp only [Char.isDigit, Bool.and_eq_true, decide_eq_true_eq]
  exact Iff.rfl

theorem digitValue?_of_isDigit {c : Char} (digit : c.isDigit = true) :
    digitValue? c = some (c.toNat - '0'.toNat) := by
  rw [digitValue?, if_pos (isDigit_iff.mp digit)]
  rfl

theorem digitValue?_of_not_isDigit {c : Char} (other : c.isDigit = false) :
    digitValue? c = none := by
  have range : ¬('0' ≤ c ∧ c ≤ '9') := fun range => by simp [isDigit_iff.mpr range] at other
  rw [digitValue?, if_neg range]

theorem takeDigits_of_noneAhead {rest : List Char} (stops : NoneAhead Char.isDigit rest)
    (value limit : Nat) : takeDigits value limit rest = (value, 0, rest) := by
  cases limit with
  | zero => rfl
  | succ limit =>
      cases rest with
      | nil => rfl
      | cons c rest => rw [takeDigits, digitValue?_of_not_isDigit (noneAhead_cons.mp stops)]

/-- Digits are taken up to where they end or their number is reached. -/
theorem takeDigits_append {digits rest : List Char} (each : ∀ c ∈ digits, c.isDigit = true)
    {value limit : Nat} (fits : digits.length ≤ limit)
    (stops : digits.length < limit → NoneAhead Char.isDigit rest) :
    takeDigits value limit (digits ++ rest) =
      (Nat.ofDigitChars 10 digits value, digits.length, rest) := by
  induction digits generalizing value limit with
  | nil =>
      cases limit with
      | zero => rfl
      | succ limit => exact takeDigits_of_noneAhead (stops (Nat.succ_pos limit)) value _
  | cons c digits ih =>
      obtain ⟨first, others⟩ := List.forall_mem_cons.mp each
      obtain ⟨limit, rfl⟩ : ∃ n, limit = n + 1 := ⟨limit - 1, by simp at fits; omega⟩
      rw [List.length_cons, Nat.add_le_add_iff_right] at fits
      rw [List.length_cons, Nat.add_lt_add_iff_right] at stops
      rw [List.cons_append, takeDigits]
      simp only [digitValue?_of_isDigit first, ih others fits stops, Nat.ofDigitChars_cons,
        Nat.mul_comm value, List.length_cons]

theorem isDigit_of_mem_padded {width n : Nat} : ∀ c ∈ padded width n, c.isDigit = true := by
  intro c member
  rcases List.mem_append.mp member with zero | digit
  · rw [List.eq_of_mem_replicate zero]
    decide
  · exact Nat.isDigit_of_mem_toDigits (by decide) (by decide) digit

theorem padded_ne_nil (width n : Nat) : padded width n ≠ [] := by
  simp [padded, Nat.toDigits_ne_nil]

/-- Padding makes up the width of numbers that are not too large for it. -/
theorem length_padded {width n : Nat} (positive : 0 < width) (bound : n < Nat.pow 10 width) :
    (padded width n).length = width := by
  have fits := (Nat.length_toDigits_le_iff (by decide : 1 < 10) positive).mpr bound
  simp only [padded, List.length_append, List.length_replicate]
  omega

/-- Zeros in front do not change a number. -/
theorem ofDigitChars_padded (width n : Nat) : Nat.ofDigitChars 10 (padded width n) 0 = n := by
  rw [padded, Nat.ofDigitChars_append, Nat.ofDigitChars_replicate_zero, Nat.mul_zero,
    Nat.ofDigitChars_ten_toDigits]

/-- A padded number is read up to its width, whatever follows, and even if that is a digit. -/
theorem takeDigits_padded {width n : Nat} (positive : 0 < width) (bound : n < Nat.pow 10 width)
    (rest : List Char) : takeDigits 0 width (padded width n ++ rest) = (n, width, rest) := by
  have length := length_padded positive bound
  rw [takeDigits_append isDigit_of_mem_padded (Nat.le_of_eq length)
    (fun short => absurd length (Nat.ne_of_lt short)), ofDigitChars_padded, length]

/-- A number that fits its width is read at that width. -/
theorem fixedNumber?_padded {width n : Nat} (positive : 0 < width) (bound : n < Nat.pow 10 width)
    (rest : List Char) : fixedNumber? width (padded width n ++ rest) = some (n, rest) := by
  rw [fixedNumber?, takeDigits_padded positive bound]
  exact if_pos rfl

theorem exactly?_cons (c : Char) (rest : List Char) : exactly? c (c :: rest) = some rest :=
  if_pos rfl

/-! ## Digits are determined by their value -/

theorem toNat_bounds_of_isDigit {c : Char} (digit : c.isDigit = true) :
    48 ≤ c.toNat ∧ c.toNat ≤ 57 :=
  isDigit_iff.mp digit

theorem digitChar_of_isDigit {c : Char} (digit : c.isDigit = true) :
    c.toNat - '0'.toNat < 10 ∧ (c.toNat - '0'.toNat).digitChar = c := by
  obtain ⟨least, greatest⟩ := toNat_bounds_of_isDigit digit
  have small : c.toNat - 48 < 10 := by omega
  refine ⟨small, Char.toNat_inj.mp ?_⟩
  have value := Nat.toNat_digitChar_of_lt_ten small
  exact value.trans (by omega)

theorem padded_one {d : Nat} (digit : d < 10) : padded 1 d = [d.digitChar] := by
  simp [padded, Nat.toDigits_of_lt_base digit]

/-- A padded number ends in its digit of ones. -/
theorem padded_append_digitChar {width n d : Nat} (positive : 0 < width) (digit : d < 10) :
    padded (width + 1) (10 * n + d) = padded width n ++ [d.digitChar] := by
  rcases Nat.eq_zero_or_pos n with rfl | nonzero
  · obtain ⟨width, rfl⟩ : ∃ k, width = k + 1 := ⟨width - 1, by omega⟩
    simp [padded, Nat.toDigits_of_lt_base digit, List.replicate_succ']
  · have digits := Nat.toDigits_append_toDigits (by decide : 1 < 10) nonzero digit
    rw [Nat.toDigits_of_lt_base digit] at digits
    simp [padded, ← digits]

/-- Digits are what their value is written with at their number. -/
theorem padded_ofDigitChars {digits : List Char} (each : ∀ c ∈ digits, c.isDigit = true)
    (visible : digits ≠ []) :
    padded digits.length (Nat.ofDigitChars 10 digits 0) = digits := by
  -- from the end, as the last digit is the remainder of the value
  induction digits using List.reverseRecOn with
  | nil => exact absurd rfl visible
  | append_singleton digits c ih =>
      obtain ⟨small, same⟩ := digitChar_of_isDigit (each c (by simp))
      rw [Nat.ofDigitChars_append, Nat.ofDigitChars_cons, Nat.ofDigitChars_nil,
        List.length_append, List.length_singleton]
      rcases List.eq_nil_or_concat digits with rfl | ⟨front, last, nonempty⟩
      · rw [Nat.ofDigitChars_nil, Nat.mul_zero, Nat.zero_add, List.length_nil, padded_one small,
          same, List.nil_append]
      · have visible : digits ≠ [] := by simp [nonempty]
        rw [padded_append_digitChar (List.length_pos_iff.mpr visible) small, same,
          ih (fun c member => each c (by simp [member])) visible]

/-- A number is bounded by how many digits it is read from. -/
theorem ofDigitChars_lt {digits : List Char} (each : ∀ c ∈ digits, c.isDigit = true)
    (visible : digits ≠ []) :
    Nat.ofDigitChars 10 digits 0 < Nat.pow 10 digits.length := by
  have length := congrArg List.length (padded_ofDigitChars each visible)
  simp only [padded, List.length_append, List.length_replicate] at length
  exact (Nat.length_toDigits_le_iff (by decide) (List.length_pos_iff.mpr visible)).mp (by omega)

/-- The digits at the start of a text, up to a number of them. -/
theorem takeDigits_eq (value limit : Nat) (cs : List Char) :
    ∃ digits rest, cs = digits ++ rest ∧ (∀ c ∈ digits, c.isDigit = true) ∧
      takeDigits value limit cs = (Nat.ofDigitChars 10 digits value, digits.length, rest) := by
  induction limit generalizing value cs with
  | zero => exact ⟨[], cs, rfl, by simp, rfl⟩
  | succ limit ih =>
      cases cs with
      | nil => exact ⟨[], [], rfl, by simp, rfl⟩
      | cons c cs =>
          cases digit : c.isDigit with
          | false => exact ⟨[], c :: cs, rfl, by simp, takeDigits_of_noneAhead (by simpa) value _⟩
          | true =>
              obtain ⟨digits, rest, rfl, each, taken⟩ := ih (value * 10 + (c.toNat - '0'.toNat)) cs
              refine ⟨c :: digits, rest, rfl, List.forall_mem_cons.mpr ⟨digit, each⟩, ?_⟩
              rw [takeDigits]
              simp only [digitValue?_of_isDigit digit, taken]
              rw [Nat.ofDigitChars_cons, Nat.mul_comm value, List.length_cons]

/-- A number of a fixed number of digits is read exactly where it is written. -/
theorem fixedNumber?_eq_some_iff {width n : Nat} (positive : 0 < width) {cs rest : List Char} :
    fixedNumber? width cs = some (n, rest) ↔
      n < Nat.pow 10 width ∧ cs = padded width n ++ rest := by
  constructor
  · intro read
    obtain ⟨digits, left, rfl, each, taken⟩ := takeDigits_eq 0 width cs
    rw [fixedNumber?, taken] at read
    simp only [Option.ite_none_right_eq_some, Option.some.injEq, Prod.mk.injEq] at read
    obtain ⟨rfl, rfl, rfl⟩ := read
    have visible : digits ≠ [] := List.length_pos_iff.mp positive
    exact ⟨ofDigitChars_lt each visible, by rw [padded_ofDigitChars each visible]⟩
  · rintro ⟨bound, rfl⟩
    exact fixedNumber?_padded positive bound rest

theorem exactly?_eq_some_iff {c : Char} {cs rest : List Char} :
    exactly? c cs = some rest ↔ cs = c :: rest := by
  cases cs with
  | nil => simp [exactly?]
  | cons d cs => simp [exactly?]

end EntityGateway.Instant
