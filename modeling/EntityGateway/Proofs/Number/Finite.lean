import EntityGateway.Number.Double
import Mathlib.Algebra.Order.Ring.Nat
import Mathlib.Tactic.Ring

/-!
# Doubles that are read are finite

A number that is written in digits becomes a double by multiplying or dividing two doubles. A
product beyond the largest double is refused. A quotient needs no such care: the divisor is a power
of ten above one, so that the quotient of a finite double is well below the largest one
(`isFinite_quotient`), however often it is divided.
-/

namespace EntityGateway.Double

variable {negative : Bool} {d e : Double} {num den : Nat}

/-! ## Bits -/

/-- A double is finite exactly if its bits without the sign are below those of infinity. -/
theorem isFinite_iff : d.isFinite = true ↔ d.bits.toNat % Nat.pow 2 63 < infinityBits := by
  rw [isFinite, decide_eq_true_iff, exponentField, infinityBits]
  simp only [Nat.pow_eq]
  omega

theorem isFinite_ofSize {size : Nat} (small : size < infinityBits) :
    (ofSize negative size).isFinite = true := by
  rw [isFinite_iff, ofSize]
  simp only [infinityBits, Nat.pow_eq] at small ⊢
  rw [UInt64.toNat_ofNat']
  split <;> omega

theorem isFinite_negate (finite : d.isFinite = true) : d.negate.isFinite = true :=
  isFinite_ofSize (isFinite_iff.mp finite)

/-! ## Rounding -/

theorem roundHalfEven_le {bound : Nat} (below : num < bound * den) :
    roundHalfEven num den ≤ bound := by
  have quotient : num / den < bound := Nat.div_lt_of_lt_mul (Nat.mul_comm .. ▸ below)
  simp only [roundHalfEven]
  split_ifs <;> omega

theorem mul_two_pow_lt {bits scale least : Nat} (positive : 0 < den)
    (exponents : Nat.log2 num + 1 + scale ≤ bits + Nat.log2 den + least) :
    num * Nat.pow 2 scale < Nat.pow 2 bits * den * Nat.pow 2 least := by
  have above : num < 2 ^ (Nat.log2 num + 1) := Nat.lt_log2_self
  have below : 2 ^ Nat.log2 den ≤ den := Nat.log2_self_le (Nat.ne_of_gt positive)
  calc num * 2 ^ scale < 2 ^ (Nat.log2 num + 1) * 2 ^ scale :=
        Nat.mul_lt_mul_of_pos_right above (Nat.two_pow_pos scale)
    _ = 2 ^ (Nat.log2 num + 1 + scale) := (Nat.pow_add ..).symm
    _ ≤ 2 ^ (bits + Nat.log2 den + least) := Nat.pow_le_pow_right (by decide) exponents
    _ = 2 ^ bits * 2 ^ Nat.log2 den * 2 ^ least := by rw [Nat.pow_add, Nat.pow_add]
    _ ≤ 2 ^ bits * den * 2 ^ least := Nat.mul_le_mul_right _ (Nat.mul_le_mul_left _ below)

theorem log2_le {bits : Nat} (some : num ≠ 0) (small : num < Nat.pow 2 bits * den) :
    Nat.log2 num ≤ bits + Nat.log2 den := by
  have below : 2 ^ Nat.log2 num ≤ num := Nat.log2_self_le some
  have above : den < 2 ^ (Nat.log2 den + 1) := Nat.lt_log2_self
  have powers : 2 ^ Nat.log2 num < 2 ^ (bits + (Nat.log2 den + 1)) := by
    calc 2 ^ Nat.log2 num ≤ num := below
      _ < 2 ^ bits * den := small
      _ ≤ 2 ^ bits * 2 ^ (Nat.log2 den + 1) := Nat.mul_le_mul_left _ (Nat.le_of_lt above)
      _ = 2 ^ (bits + (Nat.log2 den + 1)) := (Nat.pow_add ..).symm
  have exponents := (Nat.pow_lt_pow_iff_right (by decide : 1 < 2)).mp powers
  omega

/-- At its exponent a ratio has a significand of fifty-three bits. -/
theorem lt_exponentOfRatio (positive : 0 < den) :
    num * Nat.pow 2 1074 < Nat.pow 2 53 * den * Nat.pow 2 (exponentOfRatio num den) := by
  have exponents : Nat.log2 num + 1 + 1074 ≤ 53 + Nat.log2 den +
      (((Nat.log2 num : Int) - Nat.log2 den - 53 + 1074).toNat + 1) := by omega
  rw [exponentOfRatio]
  split
  · generalize 1074 = scale at exponents ⊢
    exact mul_two_pow_lt positive exponents
  · rename_i fits
    rwa [Nat.not_le] at fits

/-- The exponent of a ratio is bounded by a power of two above it. -/
theorem exponentOfRatio_le {bits : Nat} (some : num ≠ 0) (small : num < Nat.pow 2 bits * den) :
    exponentOfRatio num den ≤ bits + 1022 := by
  have exponents := log2_le some small
  have least : ((Nat.log2 num : Int) - Nat.log2 den - 53 + 1074).toNat + 1 ≤ bits + 1022 := by
    omega
  rw [exponentOfRatio]
  split
  · exact least
  · exact Nat.le_of_succ_le least

/-- A ratio that is small enough is rounded to a finite double. -/
theorem sizeOfRatio_lt {bits : Nat} (fits : bits ≤ 1022) (positive : 0 < den)
    (small : num < Nat.pow 2 bits * den) : sizeOfRatio num den < infinityBits := by
  rw [sizeOfRatio]
  split
  · decide
  · rename_i some
    have exponent := exponentOfRatio_le some small
    have enough : num * _ < _ := lt_exponentOfRatio positive
    rw [Nat.mul_assoc] at enough
    have significand := roundHalfEven_le enough
    refine Nat.lt_of_le_of_lt (Nat.min_le_left ..) ?_
    generalize roundHalfEven _ _ = rounded at significand ⊢
    generalize exponentOfRatio num den = e at exponent ⊢
    clear small enough
    simp only [infinityBits, Nat.pow_eq] at significand ⊢
    omega

/-- The double nearest to a ratio is finite if the ratio is below a power of two that is well within
the range of doubles. -/
theorem isFinite_nearest {bits : Nat} (fits : bits ≤ 1022) (positive : 0 < den)
    (small : num < Nat.pow 2 bits * den) : (nearest negative num den).isFinite = true :=
  isFinite_ofSize (sizeOfRatio_lt fits positive small)

/-! ## Quotients -/

theorem significand_lt (d : Double) : d.significand < 4 * Nat.pow 2 51 := by
  have fraction : d.fractionField < Nat.pow 2 52 := Nat.mod_lt _ (by decide)
  rw [significand]
  simp only [Nat.pow_eq] at fraction ⊢
  split <;> omega

theorem biasedExponent_le (finite : d.isFinite = true) : d.biasedExponent ≤ 2045 := by
  have field : d.exponentField < Nat.pow 2 11 := Nat.mod_lt _ (by decide)
  rw [isFinite, decide_eq_true_iff] at finite
  rw [biasedExponent]
  simp only [Nat.pow_eq] at field finite
  omega

/-- The size of a finite double is below four times the greatest power that is allowed for. -/
theorem exists_ratio_lt (finite : d.isFinite = true) :
    0 < d.ratio.2 ∧ ∃ bits ≤ 1022, d.ratio.1 < 4 * Nat.pow 2 bits * d.ratio.2 := by
  have significand := d.significand_lt
  have exponent := biasedExponent_le finite
  rw [ratio]
  split
  · refine ⟨Nat.one_pos, 51 + (d.biasedExponent - 1074), by omega, ?_⟩
    calc d.significand * 2 ^ (d.biasedExponent - 1074)
        < 4 * 2 ^ 51 * 2 ^ (d.biasedExponent - 1074) :=
          Nat.mul_lt_mul_of_pos_right significand (Nat.two_pow_pos _)
      _ = 4 * 2 ^ (51 + (d.biasedExponent - 1074)) * 1 := by
          rw [Nat.mul_one, Nat.pow_add, Nat.mul_assoc]
  · have divisor : 0 < Nat.pow 2 (1074 - d.biasedExponent) := Nat.two_pow_pos _
    exact ⟨divisor, 51, by decide,
      Nat.lt_of_lt_of_le significand (Nat.le_mul_of_pos_right _ divisor)⟩

/-- A finite double is finite still after it was divided by four or more. -/
theorem isFinite_quotient (finite : d.isFinite = true) (positive : 0 < e.ratio.2)
    (great : 4 * e.ratio.2 ≤ e.ratio.1) : (d.quotient e).isFinite = true := by
  obtain ⟨divisible, bits, fits, small⟩ := exists_ratio_lt finite
  have divisor : 0 < e.ratio.1 := by omega
  refine isFinite_nearest fits (Nat.mul_pos divisible divisor) ?_
  have scaled : 4 * (d.ratio.1 * e.ratio.2) <
      4 * (Nat.pow 2 bits * (d.ratio.2 * e.ratio.1)) := by
    calc 4 * (d.ratio.1 * e.ratio.2) = d.ratio.1 * (4 * e.ratio.2) := Nat.mul_left_comm ..
      _ ≤ d.ratio.1 * e.ratio.1 := Nat.mul_le_mul_left _ great
      _ < 4 * Nat.pow 2 bits * d.ratio.2 * e.ratio.1 :=
          Nat.mul_lt_mul_of_pos_right small divisor
      _ = 4 * (Nat.pow 2 bits * (d.ratio.2 * e.ratio.1)) := by simp only [Nat.mul_assoc]
  exact Nat.lt_of_mul_lt_mul_left scaled

/-- Powers of ten are great enough to divide by. -/
theorem ratio_powerOfTen {n : Nat} (positive : 0 < n) (small : n ≤ 308) :
    0 < (powerOfTen n).ratio.2 ∧ 4 * (powerOfTen n).ratio.2 ≤ (powerOfTen n).ratio.1 := by
  have each : ∀ n < 309, 0 < n → 0 < (powerOfTen n).ratio.2 ∧
      4 * (powerOfTen n).ratio.2 ≤ (powerOfTen n).ratio.1 := by decide +kernel
  exact each n (Nat.lt_succ_of_le small) positive

/-- Dividing by a power of ten leaves a double finite. -/
theorem isFinite_scaleDown {shift : Nat} (finite : d.isFinite = true) (positive : 0 < shift) :
    (scaleDown d shift).isFinite = true := by
  fun_induction scaleDown d shift with
  | case1 d shift small =>
      obtain ⟨nonzero, great⟩ := ratio_powerOfTen positive small
      exact isFinite_quotient finite nonzero great
  | case2 => exact finite
  | case3 d shift large _ ih =>
      obtain ⟨nonzero, great⟩ := ratio_powerOfTen (show 0 < 308 by decide) (by decide)
      exact ih (isFinite_quotient finite nonzero great) (by omega)

/-! ## Numbers in digits -/

/-- A number that is written in digits is read as a finite double, if it is read at all. -/
theorem isFinite_of_ofDigits? {significand : Nat} {exponent : Int}
    (fits : significand < Nat.pow 2 64)
    (read : ofDigits? negative significand exponent = some d) : d.isFinite = true := by
  have start : (nearest false significand 1).isFinite = true :=
    isFinite_nearest (show 64 ≤ 1022 by decide) Nat.one_pos (by rwa [Nat.mul_one])
  have signed {d : Double} (finite : d.isFinite = true) :
      (if negative then d.negate else d).isFinite = true := by
    split
    · exact isFinite_negate finite
    · exact finite
  unfold ofDigits? at read
  simp only at read
  split at read
  · rename_i below
    cases read
    exact signed (isFinite_scaleDown start (by omega))
  · split at read
    · split at read
      · rename_i finite
        cases read
        exact signed finite
      · cases read
    · split at read
      · cases read
        exact signed start
      · cases read

end EntityGateway.Double
