import EntityGateway.Number.Decimal

/-!
# Reading decimals

`Decimal.read?` reads a text as a decimal, in plain form first and then in scientific form.

A *plain* text has an optional sign, then digits with at most one point among them; after the first
digit, underscores may stand anywhere. Fractional digits that the mantissa or the scale has no room
for are rounded away: the first of them decides, five and above upwards. Where an underscore stands
right after the last fractional digit of a short mantissa, the digits behind it are dropped instead.
A zero of this form has no sign. A *scientific* text is a plain one, an `e`, and an exponent of at
most twenty-eight, either sign; a number that the exponent makes too small keeps its sign as a zero.
-/

namespace EntityGateway.Decimal

/-- What has been read of a plain text. -/
structure Partial where
  mantissa : Nat := 0
  scale : Nat := 0
  pointSeen : Bool := false
  digitSeen : Bool := false

/-- The value of a decimal digit. -/
def digit? (c : Char) : Option Nat :=
  if '0' ≤ c ∧ c ≤ '9' then some (c.toNat - 0x30) else none

/-- A character that may follow the digit that rounding looked at. -/
def isIgnoredDigit (c : Char) : Bool :=
  (digit? c).isSome || c = '_'

/-- A decimal of a plain text. The sign of zero is dropped. -/
def ofPlain? (negative : Bool) (mantissa scale : Nat) : Option Decimal :=
  ofParts? (negative && mantissa ≠ 0) mantissa scale

/-- Rounds a mantissa by the first digit that has no room. A mantissa that rounding makes too large
gives up one fractional digit. -/
def rounded? (negative : Bool) (p : Partial) (digit : Nat) : Option Decimal :=
  if digit < 5 then ofPlain? negative p.mantissa p.scale
  else if p.mantissa + 1 < mantissaBound then ofPlain? negative (p.mantissa + 1) p.scale
  else if p.scale = 0 then none
  else ofPlain? negative ((p.mantissa + 5) / 10) (p.scale - 1)

/-- Mantissas of all fractional digits but the last are short below this bound. -/
def shortBound : Nat := (Nat.pow 2 64 - 1) / 10 - 255

/-- All fractional digits have been read, and the mantissa is short. -/
def Partial.isShort (p : Partial) : Bool :=
  p.scale = maxScale && p.mantissa / 10 < shortBound

/-- Reads the rest of a plain text after its sign. -/
def readDigits? (negative : Bool) (p : Partial) : List Char → Option Decimal
  | [] => if p.digitSeen then ofPlain? negative p.mantissa p.scale else none
  | c :: rest =>
    match digit? c with
    | some digit =>
      let mantissa := p.mantissa * 10 + digit
      if p.pointSeen then
        if p.scale = maxScale ∨ mantissaBound ≤ mantissa then
          if rest.all isIgnoredDigit then rounded? negative p digit else none
        else readDigits? negative { p with mantissa, scale := p.scale + 1, digitSeen := true } rest
      else if mantissaBound ≤ mantissa then none
      else readDigits? negative { p with mantissa, digitSeen := true } rest
    | none =>
      if c = '.' ∧ p.pointSeen = false then readDigits? negative { p with pointSeen := true } rest
      else if c = '_' ∧ p.digitSeen = true then
        if p.isShort then
          if rest.all isIgnoredDigit then ofPlain? negative p.mantissa p.scale else none
        else readDigits? negative p rest
      else none

/-- Reads a plain text. -/
def readPlain? : List Char → Option Decimal
  | '-' :: rest => readDigits? true {} rest
  | '+' :: rest => readDigits? false {} rest
  | cs => readDigits? false {} cs

/-- Reads the digits of an exponent, which may have a plus sign. Exponents above twenty-eight are of
no use, so their exact value is not needed. -/
def readExponent? (cs : List Char) : Option Nat :=
  let digits := match cs with
    | '+' :: rest => rest
    | _ => cs
  if digits.isEmpty then none
  else digits.foldl
    (fun value c => do
      let v ← value
      let d ← digit? c
      some (v * 10 + d))
    (some 0)

/-- A mantissa without its last `count` digits, rounded by the first of them. -/
def withoutDigits (mantissa : Nat) : Nat → Nat
  | 0 => mantissa
  | count + 1 => (mantissa / Nat.pow 10 count + 5) / 10

/-- Moves the point of a decimal to the left. Fractional digits beyond the twenty-eighth are
rounded away. -/
def shiftedLeft? (d : Decimal) (exponent : Nat) : Option Decimal :=
  ofParts? d.negative (withoutDigits d.mantissa (d.scale + exponent - maxScale))
    (min (d.scale + exponent) maxScale)

/-- Moves the point of a decimal to the right. If it has too few fractional digits, zeros are added
to the mantissa. -/
def shiftedRight? (d : Decimal) (exponent : Nat) : Option Decimal :=
  if exponent ≤ d.scale then ofParts? d.negative d.mantissa (d.scale - exponent)
  else ofParts? d.negative (d.mantissa * Nat.pow 10 (exponent - d.scale)) 0

/-- Moves the point of a decimal by an exponent, if that is at most twenty-eight. -/
def shifted? (d : Decimal) (negativeExponent : Bool) (exponent : Nat) : Option Decimal :=
  if maxScale < exponent then none
  else if negativeExponent then shiftedLeft? d exponent
  else shiftedRight? d exponent

/-- Reads a scientific text. -/
def readScientific? (cs : List Char) : Option Decimal := do
  let isMark (c : Char) : Bool := c = 'e' || c = 'E'
  let d ← readPlain? (cs.takeWhile (!isMark ·))
  match cs.dropWhile (!isMark ·) with
  | _ :: '-' :: digits => shifted? d true (← readExponent? digits)
  | _ :: digits => shifted? d false (← readExponent? digits)
  | [] => none

/-- Reads a text as a decimal. -/
def read? (s : String) : Option Decimal :=
  readPlain? s.toList <|> readScientific? s.toList

end EntityGateway.Decimal
