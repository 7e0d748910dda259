import EntityGateway.Number.Double

/-!
# Shortest decimal digits

The decimal with the fewest digits among those that read back as a given double, and the nearest to
it of those. The reals that round to a double form an interval, which contains its ends exactly when
the significand is even. For one digit, two digits, and so on, the two neighbours of the double on
the grid of decimals with that many digits are tried; the first grid with a neighbour inside the
interval decides. Seventeen digits always suffice. Two neighbours may be equally near; which of them
is taken is left to the caller.
-/

namespace EntityGateway.Double

/-- A decimal `digits * 10 ^ exponent`. -/
structure Digits where
  digits : Nat
  exponent : Int
  deriving DecidableEq

/-- The number of decimal digits of a natural number; one for zero. -/
def digitCount (n : Nat) : Nat :=
  (Nat.toDigits 10 n).length

/-- The power of ten of the leading digit of the positive ratio `num / den`. Below one it is the
least number of factors ten that bring the ratio to one or above, negated. -/
def leadingPower (num den : Nat) : Int :=
  if den ≤ num then digitCount (num / den) - 1
  else -(digitCount ((den - 1) / num) : Int)

/-- The quotient of two ratios as one ratio, where the second is a power of ten. -/
def overPowerOfTen (num den : Nat) (power : Int) : Nat × Nat :=
  if 0 ≤ power then (num, den * Nat.pow 10 power.toNat)
  else (num * Nat.pow 10 (-power).toNat, den)

/-- The reals that round to a double: the ends of their interval and the double itself, all three
counted in quarters of the double's last place. -/
structure Interval where
  low : Nat
  middle : Nat
  high : Nat
  /-- The numerator of a quarter of the last place. -/
  unitNum : Nat
  /-- The denominator of a quarter of the last place. -/
  unitDen : Nat
  /-- The ends belong to the interval. -/
  closed : Bool

/-- The interval of a finite double that is not zero. Below a power of two the doubles lie twice as
close, so the lower end is nearer there. -/
def interval (d : Double) : Interval :=
  let m := d.significand
  let q := d.biasedExponent
  { low := if d.fractionField = 0 && 1 < d.exponentField then 4 * m - 1 else 4 * m - 2
    middle := 4 * m
    high := 4 * m + 2
    unitNum := Nat.pow 2 q
    unitDen := Nat.pow 2 1076
    closed := m % 2 = 0 }

/-- The decimal `n * 10 ^ power` lies in the interval. -/
def Interval.contains (i : Interval) (n : Nat) (power : Int) : Bool :=
  let (num, den) := overPowerOfTen i.unitNum i.unitDen power
  if i.closed then i.low * num ≤ n * den && n * den ≤ i.high * num
  else i.low * num < n * den && n * den < i.high * num

/-- Which of two neighbours on a grid is taken when both are equally near. -/
inductive Tie where
  | toEven
  | upward
  deriving DecidableEq

/-- The upper one of two equally near neighbours is taken. -/
def Tie.takesAbove (tie : Tie) (below : Nat) : Bool :=
  match tie with
  | toEven => below % 2 = 1
  | upward => true

/-- The neighbour of the middle on the grid of step `10 ^ power` that lies in the interval. Of two,
the nearer one. -/
def Interval.onGrid? (i : Interval) (tie : Tie) (power : Int) : Option Nat :=
  let (num, den) := overPowerOfTen i.unitNum i.unitDen power
  let below := i.middle * num / den
  let above := below + 1
  match i.contains below power, i.contains above power with
  | true, true =>
    let rest := i.middle * num % den
    if 2 * rest < den then some below
    else if den < 2 * rest then some above
    else if tie.takesAbove below then some above else some below
  | true, false => some below
  | false, true => some above
  | false, false => none

/-- Tries grids from the one that gives `count` digits on; `more` bounds how many are tried. -/
def Interval.search (i : Interval) (tie : Tie) (leading : Int) (count : Nat) : Nat → Digits
  | 0 => ⟨i.middle, 0⟩
  | more + 1 =>
    let power := leading - count + 1
    match i.onGrid? tie power with
    | some n => ⟨n, power⟩
    | none => i.search tie leading (count + 1) more

/-- Moves zeros at the end of the digits into the exponent; `fuel` bounds their number. -/
def Digits.strip (d : Digits) : Nat → Digits
  | 0 => d
  | fuel + 1 =>
    if d.digits % 10 = 0 && d.digits ≠ 0 then strip ⟨d.digits / 10, d.exponent + 1⟩ fuel
    else d

/-- The shortest digits of a finite double, whatever its sign. Zero is the digit zero. -/
def shortest (d : Double) (tie : Tie) : Digits :=
  if d.significand = 0 then ⟨0, 0⟩
  else
    let (num, den) := d.ratio
    (d.interval.search tie (leadingPower num den) 1 17).strip 20

end EntityGateway.Double
