/-!
# Exact decimals

A decimal is an integer mantissa of up to ninety-six bits, a number of fractional digits of up to
twenty-eight, and a sign. Trailing zeros are part of a decimal: `1.00` and `1` are different.
Amounts of money and integers too large for sixty-four bits are carried this way.
-/

namespace EntityGateway

/-- The bound of mantissas: they have ninety-six bits. -/
def Decimal.mantissaBound : Nat := Nat.pow 2 96

/-- The greatest number of fractional digits. -/
def Decimal.maxScale : Nat := 28

/-- An exact decimal: `mantissa / 10 ^ scale` with a sign. -/
structure Decimal where
  negative : Bool
  mantissa : Nat
  /-- The number of fractional digits. -/
  scale : Nat
  mantissa_lt : mantissa < Decimal.mantissaBound
  scale_le : scale ≤ Decimal.maxScale
  deriving DecidableEq

namespace Decimal

/-- A decimal from its parts, if they fit. -/
def ofParts? (negative : Bool) (mantissa scale : Nat) : Option Decimal :=
  if fits : mantissa < mantissaBound ∧ scale ≤ maxScale then
    some ⟨negative, mantissa, scale, fits.1, fits.2⟩
  else none

/-- The decimal of a natural number of up to sixty-four bits. -/
def ofUInt64 (n : UInt64) : Decimal where
  negative := false
  mantissa := n.toNat
  scale := 0
  mantissa_lt := Nat.lt_trans n.toNat_lt (by decide)
  scale_le := by decide

/-- The digits of the mantissa with a point before the last `scale` of them, and at least one digit
before the point. -/
def unsignedChars (mantissa scale : Nat) : List Char :=
  let digits := Nat.toDigits 10 mantissa
  let padded := List.replicate (scale + 1 - digits.length) '0' ++ digits
  let whole := padded.length - scale
  if scale = 0 then padded else padded.take whole ++ '.' :: padded.drop whole

/-- The characters of a decimal. -/
def chars (d : Decimal) : List Char :=
  if d.negative then '-' :: unsignedChars d.mantissa d.scale
  else unsignedChars d.mantissa d.scale

/-- The text of a decimal, with all its fractional digits. -/
def text (d : Decimal) : String :=
  String.ofList d.chars

end Decimal

end EntityGateway
