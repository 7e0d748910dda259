import EntityGateway.Text.Blank
import EntityGateway.Time.Instant

/-!
# Reading instants

`Instant.read?` reads the interchange format of RFC 3339, which names an offset from universal time.
`Instant.readLenient?` falls back on three layouts without an offset, all taken as universal time: a
date and a time with `T` between them, the same with white space between them, and a date alone.
The layouts are looser than the interchange format: numbers may have fewer digits, white space may
stand before them, and a year may have a sign and then any number of digits.
-/

namespace EntityGateway.Instant

/-- The value of a decimal digit. -/
def digitValue? (c : Char) : Option Nat :=
  if '0' ≤ c ∧ c ≤ '9' then some (c.toNat - 0x30) else none

/-- Takes up to `limit` digits, adding them to the value of those before. -/
def takeDigits (value : Nat) : Nat → List Char → Nat × Nat × List Char
  | 0, cs => (value, 0, cs)
  | limit + 1, cs =>
    match cs with
    | [] => (value, 0, [])
    | c :: rest =>
      match digitValue? c with
      | none => (value, 0, c :: rest)
      | some d =>
        let (result, count, left) := takeDigits (value * 10 + d) limit rest
        (result, count + 1, left)

/-- A number of exactly `width` digits. -/
def fixedNumber? (width : Nat) (cs : List Char) : Option (Nat × List Char) :=
  let (value, count, rest) := takeDigits 0 width cs
  if count = width then some (value, rest) else none

/-- A number of one to `limit` digits. -/
def shortNumber? (limit : Nat) (cs : List Char) : Option (Nat × List Char) :=
  let (value, count, rest) := takeDigits 0 limit cs
  if count = 0 then none else some (value, rest)

/-- One given character. -/
def exactly? (expected : Char) : List Char → Option (List Char)
  | c :: rest => if c = expected then some rest else none
  | [] => none

/-- A fraction of a second after a point, in nanoseconds, if there is a point. It has at least one
digit; digits after the ninth are dropped. -/
def fraction? : List Char → Option (Nat × List Char)
  | '.' :: rest =>
    let (value, count, left) := takeDigits 0 9 rest
    if count = 0 then none
    else some (value * Nat.pow 10 (9 - count), left.dropWhile fun c => (digitValue? c).isSome)
  | cs => some (0, cs)

/-- A date and a time of day, as they are read. -/
structure Reading where
  date : Date
  hour : Nat
  minute : Nat
  second : Nat
  nanos : Nat

/-- The instant of a date and a time of day at an offset of some minutes from universal time, if
there are such a date and such a time. A second of sixty is a leap second. -/
def Reading.instant? (r : Reading) (offsetMinutes : Int) : Option Instant :=
  if r.date.isValid ∧ r.hour ≤ 23 ∧ r.minute ≤ 59 ∧ r.second ≤ 60 then
    let isLeap := r.second = 60
    let second := if isLeap then 59 else r.second
    let seconds :=
      r.date.toDays * 86400 + (r.hour * 3600 + r.minute * 60 + second) - offsetMinutes * 60
    of? seconds (if isLeap then r.nanos + 1_000_000_000 else r.nanos)
  else none

/-- An offset from universal time in minutes: `Z`, or a sign, hours and minutes. -/
def offset? : List Char → Option (Int × List Char)
  | 'Z' :: rest => some (0, rest)
  | 'z' :: rest => some (0, rest)
  | sign :: rest => do
    let negative ←
      if sign = '+' then some false
      else if sign = '-' ∨ sign = '\u2212' then some true
      else none
    let (hours, rest) ← fixedNumber? 2 rest
    let rest ← exactly? ':' rest
    let (minutes, rest) ← fixedNumber? 2 rest
    if hours ≤ 23 ∧ minutes ≤ 59 then
      let total : Int := hours * 60 + minutes
      some (if negative then -total else total, rest)
    else none
  | [] => none

/-- Reads the interchange format, `2024-02-29T23:59:59.25+01:00`. Between the date and the time
stands `T`, in either case, or one blank. -/
def readChars? (cs : List Char) : Option Instant := do
  let (year, cs) ← fixedNumber? 4 cs
  let cs ← exactly? '-' cs
  let (month, cs) ← fixedNumber? 2 cs
  let cs ← exactly? '-' cs
  let (day, cs) ← fixedNumber? 2 cs
  let cs ← exactly? 'T' cs <|> exactly? 't' cs <|> exactly? ' ' cs
  let (hour, cs) ← fixedNumber? 2 cs
  let cs ← exactly? ':' cs
  let (minute, cs) ← fixedNumber? 2 cs
  let cs ← exactly? ':' cs
  let (second, cs) ← fixedNumber? 2 cs
  let (nanos, cs) ← fraction? cs
  let (offset, cs) ← offset? cs
  if cs.isEmpty then
    Reading.instant? ⟨⟨year, month, day⟩, hour, minute, second, nanos⟩ offset
  else none

/-- Reads a text in the interchange format. -/
def read? (s : String) : Option Instant :=
  readChars? s.toList

/-- The year of a layout: up to four digits, or a sign and any number of digits. -/
def layoutYear? (cs : List Char) : Option (Int × List Char) :=
  match Text.trimStart cs with
  | '-' :: rest => do
    let (year, rest) ← shortNumber? rest.length rest
    some (-(year : Int), rest)
  | '+' :: rest => do
    let (year, rest) ← shortNumber? rest.length rest
    some ((year : Int), rest)
  | cs => do
    let (year, rest) ← shortNumber? 4 cs
    some ((year : Int), rest)

/-- A number of a layout other than the year. -/
def layoutNumber? (cs : List Char) : Option (Nat × List Char) :=
  shortNumber? 2 (Text.trimStart cs)

/-- The date at the start of each layout. -/
def layoutDate? (cs : List Char) : Option (Date × List Char) := do
  let (year, cs) ← layoutYear? cs
  let cs ← exactly? '-' cs
  let (month, cs) ← layoutNumber? cs
  let cs ← exactly? '-' cs
  let (day, cs) ← layoutNumber? cs
  some (⟨year, month, day⟩, cs)

/-- The time of day at the end of a layout, after the given date. -/
def layoutTime? (date : Date) (cs : List Char) : Option Instant := do
  let (hour, cs) ← layoutNumber? cs
  let cs ← exactly? ':' cs
  let (minute, cs) ← layoutNumber? cs
  let cs ← exactly? ':' cs
  let (second, cs) ← layoutNumber? cs
  let (nanos, cs) ← fraction? cs
  if cs.isEmpty then Reading.instant? ⟨date, hour, minute, second, nanos⟩ 0 else none

/-- The layout with `T` between date and time. -/
def readSeparated? (cs : List Char) : Option Instant := do
  let (date, cs) ← layoutDate? cs
  let cs ← exactly? 'T' cs
  layoutTime? date cs

/-- The layout with any white space, or none, between date and time. -/
def readSpaced? (cs : List Char) : Option Instant := do
  let (date, cs) ← layoutDate? cs
  layoutTime? date (Text.trimStart cs)

/-- The layout of a date alone, which stands for its first instant. -/
def readDate? (cs : List Char) : Option Instant := do
  let (date, cs) ← layoutDate? cs
  if cs.isEmpty then Reading.instant? ⟨date, 0, 0, 0, 0⟩ 0 else none

/-- Reads a text in the interchange format or, failing that, in one of the layouts. -/
def readLenient? (s : String) : Option Instant :=
  let cs := s.toList
  readChars? cs <|> readSeparated? cs <|> readSpaced? cs <|> readDate? cs

end EntityGateway.Instant
