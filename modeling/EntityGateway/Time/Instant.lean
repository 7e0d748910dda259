import EntityGateway.Time.Calendar

/-!
# Instants

An instant is a second of universal time, counted from the start of 1970, and a part of that second
in nanoseconds. A leap second is the sixtieth second of a minute: it is counted as the second before
it with a billion nanoseconds more. Instants are written in two formats, one for data and one for
request headers.
-/

namespace EntityGateway

/-- A point in universal time. -/
structure Instant where
  /-- Seconds since the start of 1970, leap seconds left out. -/
  seconds : Int
  /-- Nanoseconds, a billion and more within a leap second. -/
  nanos : Nat
  nanos_lt : nanos < 2_000_000_000
  /-- Leap seconds end a minute. -/
  leap_ends_minute : 1_000_000_000 ≤ nanos → seconds % 60 = 59
  deriving DecidableEq

namespace Instant

/-- An instant from its parts, if they fit together. -/
def of? (seconds : Int) (nanos : Nat) : Option Instant :=
  if fits : nanos < 2_000_000_000 ∧ (1_000_000_000 ≤ nanos → seconds % 60 = 59) then
    some ⟨seconds, nanos, fits.1, fits.2⟩
  else none

/-- The start of 1970. -/
def epoch : Instant :=
  (of? 0 0).get rfl

/-- The date of an instant, in days since the first of January 1970. -/
def days (i : Instant) : Int :=
  i.seconds / 86400

/-- The second of the day, leap seconds left out. -/
def secondOfDay (i : Instant) : Nat :=
  (i.seconds % 86400).toNat

/-- The hour of the day. -/
def hour (i : Instant) : Nat :=
  i.secondOfDay / 3600

/-- The minute of the hour. -/
def minute (i : Instant) : Nat :=
  i.secondOfDay / 60 % 60

/-- The second of the minute, which is sixty within a leap second. -/
def second (i : Instant) : Nat :=
  i.secondOfDay % 60 + i.nanos / 1_000_000_000

/-- The nanoseconds since the last full second. -/
def fraction (i : Instant) : Nat :=
  i.nanos % 1_000_000_000

/-- A number with at least `width` digits. -/
def padded (width n : Nat) : List Char :=
  let digits := Nat.toDigits 10 n
  List.replicate (width - digits.length) '0' ++ digits

/-- A year: four digits if it has no more and is not negative, else a sign and at least four
digits. -/
def yearChars (year : Int) : List Char :=
  if 0 ≤ year ∧ year ≤ 9999 then padded 4 year.toNat
  else (if year < 0 then '-' else '+') :: padded 4 year.natAbs

/-- The fraction of a second after its point: three, six or nine digits, the fewest that lose
nothing, and nothing at all for a full second. -/
def fractionChars (nanos : Nat) : List Char :=
  if nanos = 0 then []
  else if nanos % 1_000_000 = 0 then '.' :: padded 3 (nanos / 1_000_000)
  else if nanos % 1_000 = 0 then '.' :: padded 6 (nanos / 1_000)
  else '.' :: padded 9 nanos

/-- The time of day with its colons. -/
def clockChars (i : Instant) : List Char :=
  padded 2 i.hour ++ ':' :: padded 2 i.minute ++ ':' :: padded 2 i.second

/-- The characters of an instant in the data format, `2024-02-29T23:59:59.250Z`. -/
def chars (i : Instant) : List Char :=
  let date := Date.ofDays i.days
  yearChars date.year ++ '-' :: padded 2 date.month ++ '-' :: padded 2 date.day ++
    'T' :: i.clockChars ++ fractionChars i.fraction ++ ['Z']

/-- An instant in the data format. -/
def text (i : Instant) : String :=
  String.ofList i.chars

/-- The short names of the days of the week, Sunday first. -/
def weekdayNames : List String := ["Sun", "Mon", "Tue", "Wed", "Thu", "Fri", "Sat"]

/-- The short names of the months. -/
def monthNames : List String :=
  ["Jan", "Feb", "Mar", "Apr", "May", "Jun", "Jul", "Aug", "Sep", "Oct", "Nov", "Dec"]

/-- An instant in the header format, `Thu, 29 Feb 2024 23:59:59 GMT`, without the fraction of its
second. -/
def headerDate (i : Instant) : String :=
  let date := Date.ofDays i.days
  let weekday := weekdayNames.getD (Date.weekday i.days) ""
  let month := monthNames.getD (date.month - 1) ""
  weekday ++ ", " ++ String.ofList (padded 2 date.day) ++ " " ++ month ++ " " ++
    String.ofList (yearChars date.year ++ ' ' :: i.clockChars) ++ " GMT"

end Instant

end EntityGateway
