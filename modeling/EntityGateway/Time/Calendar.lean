/-!
# The calendar

Dates of the Gregorian calendar, extended in both directions, and the days between them. A date is
counted in days since the first of January 1970. The year of the count begins in March, so that the
day a leap year adds comes last, and the calendar repeats after four hundred years.
-/

namespace EntityGateway

/-- A date of the calendar. -/
structure Date where
  year : Int
  month : Nat
  day : Nat
  deriving DecidableEq

namespace Date

/-- The year has a twenty-ninth of February. -/
def isLeapYear (year : Int) : Bool :=
  year % 4 = 0 && (year % 100 ≠ 0 || year % 400 = 0)

/-- The number of days of a month. -/
def daysInMonth (year : Int) (month : Nat) : Nat :=
  if month = 2 then if isLeapYear year then 29 else 28
  else if month = 4 ∨ month = 6 ∨ month = 9 ∨ month = 11 then 30
  else 31

/-- The years that dates can have. -/
def leastYear : Int := -262143

/-- The years that dates can have. -/
def greatestYear : Int := 262142

/-- The date exists. -/
def isValid (d : Date) : Bool :=
  leastYear ≤ d.year && d.year ≤ greatestYear && 1 ≤ d.month && d.month ≤ 12 &&
    1 ≤ d.day && d.day ≤ daysInMonth d.year d.month

/-- Days from the first of March of the year 0 to the first of January 1970. -/
def epochShift : Int := 719468

/-- Days in four hundred years. -/
def daysInEra : Int := 146097

/-- Days since the first of January 1970. -/
def toDays (d : Date) : Int :=
  let year := if d.month ≤ 2 then d.year - 1 else d.year
  let era := year / 400
  let yearOfEra := year % 400
  let monthFromMarch : Int := (d.month + 9) % 12
  let dayOfYear := (153 * monthFromMarch + 2) / 5 + d.day - 1
  let dayOfEra := yearOfEra * 365 + yearOfEra / 4 - yearOfEra / 100 + dayOfYear
  era * daysInEra + dayOfEra - epochShift

/-- The date of a number of days since the first of January 1970. -/
def ofDays (days : Int) : Date :=
  let shifted := days + epochShift
  let era := shifted / daysInEra
  let dayOfEra := shifted % daysInEra
  let yearOfEra := (dayOfEra - dayOfEra / 1460 + dayOfEra / 36524 - dayOfEra / 146096) / 365
  let dayOfYear := dayOfEra - (365 * yearOfEra + yearOfEra / 4 - yearOfEra / 100)
  let monthFromMarch := (5 * dayOfYear + 2) / 153
  let day := dayOfYear - (153 * monthFromMarch + 2) / 5 + 1
  let month := if monthFromMarch < 10 then monthFromMarch + 3 else monthFromMarch - 9
  let year := yearOfEra + era * 400
  { year := if month ≤ 2 then year + 1 else year
    month := month.toNat
    day := day.toNat }

/-- The day of the week of a number of days since the first of January 1970, a Thursday: zero is
Sunday. -/
def weekday (days : Int) : Nat :=
  ((days + 4) % 7).toNat

end Date

end EntityGateway
