import EntityGateway.Uuid
import Mathlib.Algebra.Group.Nat.Defs
import Mathlib.Tactic.SplitIfs

/-!
# Identifiers are read back

The text of an identifier is read as the identifier: the digits stand for the number that they were
written for, and the hyphens are left out again.
-/

namespace EntityGateway.Uuid

/-- Every hexadecimal digit has its value. -/
theorem digit?_digitChar {n : Nat} (small : n < 16) : digit? (digitChar n) = some n := by
  have each : ∀ n < 16, digit? (digitChar n) = some n := by decide
  exact each n small

theorem length_hexDigits (n count : Nat) : (hexDigits n count).length = count := by
  induction count generalizing n with
  | zero => rfl
  | succ count ih => rw [hexDigits, List.length_append, ih, List.length_singleton]

theorem hexNumber?_append_digit {cs : List Char} {n d : Nat} (number : hexNumber? cs = some n)
    (small : d < 16) : hexNumber? (cs ++ [digitChar d]) = some (n * 16 + d) := by
  unfold hexNumber? at number ⊢
  rw [List.foldl_append, number]
  simp [digit?_digitChar small]

/-- Digits stand for the number, as far as there are enough of them. -/
theorem hexNumber?_hexDigits (n count : Nat) :
    hexNumber? (hexDigits n count) = some (n % 16 ^ count) := by
  induction count generalizing n with
  | zero => simp [hexDigits, hexNumber?, Nat.mod_one]
  | succ count ih =>
      have last : n % 16 < 16 := Nat.mod_lt n (by decide)
      rw [hexDigits, hexNumber?_append_digit (ih (n / 16)) last]
      congr 1
      rw [Nat.pow_succ, Nat.mul_comm (16 ^ count), Nat.mod_mul]
      omega

theorem readSimple?_hexDigits (u : Uuid) : readSimple? (hexDigits u.bits.toNat 32) = some u := by
  have bound : u.bits.toNat < 16 ^ 32 := u.bits.isLt
  rw [readSimple?, if_pos (length_hexDigits ..), hexNumber?_hexDigits, Nat.mod_eq_of_lt bound]
  simp

/-- The digits are found again between the hyphens. -/
theorem readHyphenated?_groups {a b c d e : List Char} (lengthA : a.length = 8)
    (lengthB : b.length = 4) (lengthC : c.length = 4) (lengthD : d.length = 4)
    (lengthE : e.length = 12) :
    readHyphenated? (a ++ '-' :: b ++ '-' :: c ++ '-' :: d ++ '-' :: e) =
      readSimple? (a ++ b ++ c ++ d ++ e) := by
  simp [readHyphenated?, List.drop_append, List.drop_of_length_le, lengthA,
    lengthB, lengthC, lengthD, lengthE]

theorem take_drop_append_drop (digits : List Char) (before count : Nat) :
    (digits.drop before).take count ++ digits.drop (before + count) = digits.drop before := by
  rw [← List.drop_drop, List.take_append_drop]

/-- The text of an identifier is read as the identifier. -/
theorem read?_text (u : Uuid) : read? u.text = some u := by
  have length := length_hexDigits u.bits.toNat 32
  have simple := readSimple?_hexDigits u
  rw [read?, text, String.toList_ofList, chars]
  generalize hexDigits u.bits.toNat 32 = digits at length simple
  have groups : digits.take 8 ++ (digits.drop 8).take 4 ++ (digits.drop 12).take 4 ++
      (digits.drop 16).take 4 ++ digits.drop 20 = digits := by
    simp only [List.append_assoc]
    rw [take_drop_append_drop digits 16 4, take_drop_append_drop digits 12 4,
      take_drop_append_drop digits 8 4, List.take_append_drop]
  have hyphenated := readHyphenated?_groups (a := digits.take 8) (b := (digits.drop 8).take 4)
    (c := (digits.drop 12).take 4) (d := (digits.drop 16).take 4) (e := digits.drop 20)
    (by simp [length]) (by simp [length]) (by simp [length]) (by simp [length]) (by simp [length])
  rw [groups, simple] at hyphenated
  rw [readChars?, if_neg (by simp [length]), if_pos (by simp [length]), hyphenated]

end EntityGateway.Uuid
