import EntityGateway.Number.Shortest

/-!
# Written doubles

Two ways to write a double, both from its shortest digits. The *plain* form, used inside query text,
never has an exponent. The *marked* form, used in JSON, shows that the number is no integer: it has
a point or an exponent, and the exponent appears outside of a range of magnitudes.
-/

namespace EntityGateway.Double

/-- How a kind of text writes doubles. -/
structure Layout where
  /-- The least power of ten of a leading digit that is written without an exponent. -/
  leastPlain : Option Int
  /-- The least power of ten above those that are written without an exponent. -/
  abovePlain : Option Int
  /-- What follows a number without a fraction. -/
  integerMark : List Char
  /-- Which of two equally near shortest digits are written. -/
  tie : Tie

/-- Inside query text, numbers have no exponent, whatever their magnitude, and an integral one has
no point. Of two equally near ones the larger digits are written. -/
def plainLayout : Layout := ⟨none, none, [], .upward⟩

/-- In JSON, `0.00001` is the least and `1e+16` the first number beyond those without an exponent,
and an integral one ends in `.0`. Of two equally near ones the even digits are written. -/
def markedLayout : Layout := ⟨some (-5), some 16, ['.', '0'], .toEven⟩

/-- Digits written without an exponent. -/
def Digits.positional (d : Digits) (integerMark : List Char) : List Char :=
  let text := Nat.toDigits 10 d.digits
  if 0 ≤ d.exponent then text ++ List.replicate d.exponent.toNat '0' ++ integerMark
  else
    let places := (-d.exponent).toNat
    if places < text.length then
      text.take (text.length - places) ++ '.' :: text.drop (text.length - places)
    else
      '0' :: '.' :: List.replicate (places - text.length) '0' ++ text

/-- Digits written with one digit before the point and an exponent. -/
def Digits.scientific (d : Digits) (power : Int) : List Char :=
  let mantissa :=
    match Nat.toDigits 10 d.digits with
    | first :: second :: rest => first :: '.' :: second :: rest
    | text => text
  mantissa ++ 'e' :: (if power < 0 then '-' else '+') :: Nat.toDigits 10 power.natAbs

/-- Digits in a layout. -/
def Layout.write (layout : Layout) (d : Digits) : List Char :=
  let power := d.exponent + digitCount d.digits - 1
  let isPlain :=
    d.digits = 0 ||
      (layout.leastPlain.all fun least => decide (least ≤ power)) &&
        (layout.abovePlain.all fun above => decide (power < above))
  if isPlain then d.positional layout.integerMark else d.scientific power

/-- A finite double in a layout. -/
def Layout.writeFinite (layout : Layout) (d : Double) : List Char :=
  let size := layout.write (d.shortest layout.tie)
  if d.isNegative then '-' :: size else size

/-- The plain form. What is no finite number is named. -/
def plain (d : Double) : List Char :=
  if d.isFinite then plainLayout.writeFinite d
  else if d.isNaN then ['N', 'a', 'N']
  else if d.isNegative then ['-', 'i', 'n', 'f']
  else ['i', 'n', 'f']

/-- The marked form. JSON has no number for what is not finite; it is written as null. -/
def marked (d : Double) : List Char :=
  if d.isFinite then markedLayout.writeFinite d else ['n', 'u', 'l', 'l']

end EntityGateway.Double
