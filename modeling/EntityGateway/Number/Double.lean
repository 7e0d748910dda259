/-!
# Double-precision numbers

A double is its sixty-four bits. A finite one is `significand * 2 ^ exponent`, up to its sign, and
`nearest` rounds any ratio of natural numbers to the nearest double, half-way cases to the even
significand. Everything here is exact arithmetic on natural numbers, so statements about doubles
never depend on a machine's arithmetic.
-/

namespace EntityGateway

/-- A double-precision number, held as its bits: the sign, eleven bits of exponent, and fifty-two
bits of fraction. -/
structure Double where
  bits : UInt64
  deriving DecidableEq, Inhabited

namespace Double

/-- The number has a minus sign, which zero may have as well. -/
def isNegative (d : Double) : Bool :=
  Nat.pow 2 63 ≤ d.bits.toNat

/-- The exponent field. -/
def exponentField (d : Double) : Nat :=
  d.bits.toNat / Nat.pow 2 52 % Nat.pow 2 11

/-- The fraction field. -/
def fractionField (d : Double) : Nat :=
  d.bits.toNat % Nat.pow 2 52

/-- The double is a number, and not an infinity. -/
def isFinite (d : Double) : Bool :=
  d.exponentField ≠ Nat.pow 2 11 - 1

/-- The double is no number at all. -/
def isNaN (d : Double) : Bool :=
  !d.isFinite && d.fractionField ≠ 0

/-- The significand of a finite double: below `2 ^ 53`, and at least `2 ^ 52` unless the exponent is
the least one. -/
def significand (d : Double) : Nat :=
  if d.exponentField = 0 then d.fractionField else d.fractionField + Nat.pow 2 52

/-- The power of two that a finite double's significand is taken at, plus 1074. -/
def biasedExponent (d : Double) : Nat :=
  d.exponentField - 1

/-- The double is zero, of either sign. -/
def isZero (d : Double) : Bool :=
  d.isFinite && d.significand = 0

/-- The size of a finite double as a numerator and a denominator. -/
def ratio (d : Double) : Nat × Nat :=
  if 1074 ≤ d.biasedExponent then (d.significand * Nat.pow 2 (d.biasedExponent - 1074), 1)
  else (d.significand, Nat.pow 2 (1074 - d.biasedExponent))

/-- The bits of the positive infinity. -/
def infinityBits : Nat := (Nat.pow 2 11 - 1) * Nat.pow 2 52

/-- A double from its sign and its remaining bits. -/
def ofSize (negative : Bool) (size : Nat) : Double :=
  ⟨UInt64.ofNat (if negative then Nat.pow 2 63 + size else size)⟩

/-- The infinity of a sign. -/
def infinity (negative : Bool) : Double :=
  ofSize negative infinityBits

/-- A double that is no number. -/
def nan : Double :=
  ofSize false (infinityBits + Nat.pow 2 51)

/-- The quotient rounded to the nearest natural number, half-way cases to the even one. -/
def roundHalfEven (num den : Nat) : Nat :=
  let quotient := num / den
  let rest := num % den
  if 2 * rest < den then quotient
  else if den < 2 * rest then quotient + 1
  else if quotient % 2 = 0 then quotient
  else quotient + 1

/-- Of a ratio `num / den`, the biased exponent at which the rounded significand has fifty-three
bits, or the least one. -/
def exponentOfRatio (num den : Nat) : Nat :=
  -- `num / den` lies strictly between `2 ^ (top - 1)` and `2 ^ (top + 1)`
  let top : Int := (Nat.log2 num : Int) - Nat.log2 den
  let low := (top - 53 + 1074).toNat
  if Nat.pow 2 53 * den * Nat.pow 2 low ≤ num * Nat.pow 2 1074 then low + 1 else low

/-- The bits, without the sign, of the double nearest to a ratio. A ratio beyond the largest double
gives the infinity. -/
def sizeOfRatio (num den : Nat) : Nat :=
  if num = 0 then 0
  else
    let exponent := exponentOfRatio num den
    let significand := roundHalfEven (num * Nat.pow 2 1074) (den * Nat.pow 2 exponent)
    -- a significand that rounding brought to `2 ^ 53` carries into the exponent by this sum
    min (exponent * Nat.pow 2 52 + significand) infinityBits

/-- The double nearest to a ratio. -/
def nearest (negative : Bool) (num den : Nat) : Double :=
  ofSize negative (sizeOfRatio num den)

/-- The double nearest to a power of ten. -/
def powerOfTen (n : Nat) : Double :=
  nearest false (Nat.pow 10 n) 1

/-- The double nearest to the product of the sizes of two finite doubles. -/
def times (d e : Double) : Double :=
  nearest false (d.ratio.1 * e.ratio.1) (d.ratio.2 * e.ratio.2)

/-- The double nearest to the quotient of the sizes of two finite doubles, the second not zero. -/
def quotient (d e : Double) : Double :=
  nearest false (d.ratio.1 * e.ratio.2) (d.ratio.2 * e.ratio.1)

/-- The double with the opposite sign. -/
def negate (d : Double) : Double :=
  ofSize (!d.isNegative) (d.bits.toNat % Nat.pow 2 63)

/-- Scales a non-negative double down by `10 ^ shift`, in steps that a power of ten below the
largest double allows. -/
def scaleDown (d : Double) (shift : Nat) : Double :=
  if shift ≤ 308 then d.quotient (powerOfTen shift)
  else if d.isZero then d
  else scaleDown (d.quotient (powerOfTen 308)) (shift - 308)
termination_by shift

/-- The double for `significand * 10 ^ exponent`: the significand becomes a double first, and is
then multiplied or divided by a power of ten that is a double too. Nothing if the result would be
infinite. -/
def ofDigits? (negative : Bool) (significand : Nat) (exponent : Int) : Option Double :=
  let start := nearest false significand 1
  let signed (d : Double) : Double := if negative then d.negate else d
  if exponent < 0 then some (signed (scaleDown start (-exponent).toNat))
  else if exponent ≤ 308 then
    let result := start.times (powerOfTen exponent.toNat)
    if result.isFinite then some (signed result) else none
  else if start.isZero then some (signed start)
  else none

end Double

end EntityGateway
