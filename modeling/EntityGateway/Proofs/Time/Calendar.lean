import EntityGateway.Time.Calendar
import Mathlib.Tactic.SplitIfs

/-!
# Days and dates

A number of days and its date stand for each other: the date of a number of days exists in the
calendar and has that number of days (`Date.toDays_ofDays`, `Date.isValid_ofDays`). A day of an era
of four hundred years is taken apart into centuries, groups of four years, years and days
(`DayOfEra`), which are what the divisions of `Date.ofDays` find.
-/

namespace EntityGateway.Date

/-- Every fourth year is a leap year, but of the years that end centuries only every fourth. -/
theorem isLeapYear_iff {year : Int} :
    isLeapYear year = true ↔ year % 4 = 0 ∧ (year % 100 ≠ 0 ∨ year % 400 = 0) := by
  simp [isLeapYear]

/-- A day of an era by its century, its group of four years, its year and its day of the year. A
year of three hundred and sixty-six days ends a group; the last group of a century has no such year,
unless the century ends the era. -/
structure DayOfEra where
  century : Int
  group : Int
  year : Int
  day : Int
  century_nonneg : 0 ≤ century
  century_le : century ≤ 3
  group_nonneg : 0 ≤ group
  group_le : group ≤ 24
  year_nonneg : 0 ≤ year
  year_le : year ≤ 3
  day_nonneg : 0 ≤ day
  day_le : day ≤ 365
  leap : day = 365 → year = 3 ∧ (group = 24 → century = 3)

namespace DayOfEra

/-- The number of the day within its era. -/
def number (d : DayOfEra) : Int :=
  36524 * d.century + 1461 * d.group + 365 * d.year + d.day

/-- The number of the year within its era. -/
def yearOfEra (d : DayOfEra) : Int :=
  100 * d.century + 4 * d.group + d.year

theorem bounds (d : DayOfEra) :
    (0 ≤ d.century ∧ d.century ≤ 3) ∧ (0 ≤ d.group ∧ d.group ≤ 24) ∧ (0 ≤ d.year ∧ d.year ≤ 3) ∧
      (0 ≤ d.day ∧ d.day ≤ 365) ∧ (d.day = 365 → d.year = 3 ∧ (d.group = 24 → d.century = 3)) :=
  ⟨⟨d.century_nonneg, d.century_le⟩, ⟨d.group_nonneg, d.group_le⟩, ⟨d.year_nonneg, d.year_le⟩,
    ⟨d.day_nonneg, d.day_le⟩, d.leap⟩

/-- Every number within an era is that of a day by its century, group, year and day of the year. -/
theorem exists_number_eq {n : Int} (nonneg : 0 ≤ n) (bound : n < daysInEra) :
    ∃ d : DayOfEra, d.number = n := by
  unfold daysInEra at bound
  obtain ⟨century, century_eq⟩ : ∃ c, c = min (n / 36524) 3 := ⟨_, rfl⟩
  obtain ⟨rest, rest_eq⟩ : ∃ r, r = n - 36524 * century := ⟨_, rfl⟩
  obtain ⟨group, group_eq⟩ : ∃ g, g = rest / 1461 := ⟨_, rfl⟩
  obtain ⟨days, days_eq⟩ : ∃ s, s = rest - 1461 * group := ⟨_, rfl⟩
  obtain ⟨year, year_eq⟩ : ∃ y, y = min (days / 365) 3 := ⟨_, rfl⟩
  have centuryRange : 0 ≤ century ∧ century ≤ 3 ∧ 0 ≤ rest ∧ rest ≤ 36524 ∧
      (rest = 36524 → century = 3) := by omega
  have groupRange : 0 ≤ group ∧ group ≤ 24 ∧ 0 ≤ days ∧ days ≤ 1460 := by omega
  have yearRange : 0 ≤ year ∧ year ≤ 3 ∧ 0 ≤ days - 365 * year ∧ days - 365 * year ≤ 365 := by
    omega
  refine ⟨⟨century, group, year, days - 365 * year, centuryRange.1, centuryRange.2.1, groupRange.1,
    groupRange.2.1, yearRange.1, yearRange.2.1, yearRange.2.2.1, yearRange.2.2.2, ?_⟩, ?_⟩
  · omega
  · simp only [number]
    omega

/-- The divisions of `Date.ofDays` find the year: each division by a group, a century or an era less
a day counts the days that leap years have added, and one too many on the last day at most. -/
theorem division_number (d : DayOfEra) :
    (d.number - d.number / 1460 + d.number / 36524 - d.number / 146096) / 365 = d.yearOfEra := by
  have bounds := d.bounds
  simp only [number, yearOfEra]
  generalize total : 36524 * d.century + 1461 * d.group + 365 * d.year + d.day = n
  obtain ⟨late, lateRange, groups⟩ :
      ∃ late : Int, (late = 0 ∧ d.day ≠ 365 ∨ late = 1 ∧ d.day ≠ 0) ∧
        n / 1460 = 25 * d.century + d.group + late := by
    by_cases early : 24 * d.century + d.group + 365 * d.year + d.day < 1460
    · exact ⟨0, by omega, by omega⟩
    · exact ⟨1, by omega, by omega⟩
  obtain ⟨last, centuries, eras⟩ :
      ∃ last : Int, n / 36524 = d.century + last ∧ n / 146096 = last := by
    by_cases notLast : n < 146096
    · exact ⟨0, by omega, by omega⟩
    · exact ⟨1, by omega, by omega⟩
  rw [groups, centuries, eras]
  omega

/-- A year begins with its number of days in the years before. -/
theorem number_eq (d : DayOfEra) :
    d.number = 365 * d.yearOfEra + d.yearOfEra / 4 - d.yearOfEra / 100 + d.day := by
  have bounds := d.bounds
  simp only [number, yearOfEra]
  omega

theorem yearOfEra_bounds (d : DayOfEra) : 0 ≤ d.yearOfEra ∧ d.yearOfEra ≤ 399 := by
  have bounds := d.bounds
  simp only [yearOfEra]
  omega

/-- The number of a day is within its era. -/
theorem number_bounds (d : DayOfEra) : 0 ≤ d.number ∧ d.number < daysInEra := by
  have bounds := d.bounds
  simp only [number, daysInEra]
  omega

/-- The month of the day, March being the month zero. -/
def monthFromMarch (d : DayOfEra) : Int :=
  (5 * d.day + 2) / 153

/-- The day of the month, the first being the day zero. -/
def dayOfMonth (d : DayOfEra) : Int :=
  d.day - (153 * d.monthFromMarch + 2) / 5

theorem month_bounds (d : DayOfEra) :
    0 ≤ d.monthFromMarch ∧ d.monthFromMarch ≤ 11 ∧ 0 ≤ d.dayOfMonth ∧ d.dayOfMonth ≤ 30 := by
  have bounds := d.bounds
  simp only [dayOfMonth, monthFromMarch]
  omega

/-- The date of a day of an era. January and February belong to the next year. -/
def date (era : Int) (d : DayOfEra) : Date :=
  if d.monthFromMarch < 10 then
    ⟨d.yearOfEra + era * 400, (d.monthFromMarch + 3).toNat, (d.dayOfMonth + 1).toNat⟩
  else ⟨d.yearOfEra + era * 400 + 1, (d.monthFromMarch - 9).toNat, (d.dayOfMonth + 1).toNat⟩

/-- The date of a number of days is found by era, century, group and year. -/
theorem ofDays_number (era : Int) (d : DayOfEra) :
    ofDays (d.number + era * daysInEra - epochShift) = d.date era := by
  obtain ⟨numberNonneg, numberLt⟩ := d.number_bounds
  have eraFound : (d.number + era * daysInEra) / daysInEra = era := by
    rw [Int.add_mul_ediv_right _ _ (by decide), Int.ediv_eq_zero_of_lt numberNonneg numberLt,
      Int.zero_add]
  have dayFound : (d.number + era * daysInEra) % daysInEra = d.number := by
    rw [Int.add_mul_emod_self_right, Int.emod_eq_of_lt numberNonneg numberLt]
  have dayOfYear :
      d.number - (365 * d.yearOfEra + d.yearOfEra / 4 - d.yearOfEra / 100) = d.day := by
    rw [d.number_eq]
    omega
  have monthFound : (5 * d.day + 2) / 153 = d.monthFromMarch := rfl
  have dayOfMonth : d.day - (153 * d.monthFromMarch + 2) / 5 = d.dayOfMonth := rfl
  have monthBounds := d.month_bounds
  simp only [ofDays, Int.sub_add_cancel, eraFound, dayFound, division_number, dayOfYear, monthFound,
    dayOfMonth]
  unfold date
  split
  · rw [if_neg (by omega)]
  · rw [if_pos (by omega)]

/-- The number of days of a date is the one that the date was found from. -/
theorem toDays_date (era : Int) (d : DayOfEra) :
    (d.date era).toDays = d.number + era * daysInEra - epochShift := by
  obtain ⟨yearNonneg, yearLe⟩ := d.yearOfEra_bounds
  obtain ⟨monthNonneg, monthLe, dayNonneg, -⟩ := d.month_bounds
  have dayOfYear : d.day = (153 * d.monthFromMarch + 2) / 5 + d.dayOfMonth := by
    simp only [dayOfMonth]
    omega
  have eraFound : (d.yearOfEra + era * 400) / 400 = era := by omega
  have yearFound : (d.yearOfEra + era * 400) % 400 = d.yearOfEra := by omega
  rw [d.number_eq, dayOfYear]
  unfold date
  split
  · have monthFound : (((d.monthFromMarch + 3).toNat : Int) + 9) % 12 = d.monthFromMarch := by omega
    have late : ¬(d.monthFromMarch + 3).toNat ≤ 2 := by omega
    simp only [toDays, if_neg late, eraFound, yearFound, monthFound]
    omega
  · have monthFound : (((d.monthFromMarch - 9).toNat : Int) + 9) % 12 = d.monthFromMarch := by omega
    have early : (d.monthFromMarch - 9).toNat ≤ 2 := by omega
    simp only [toDays, if_pos early, Int.add_sub_cancel, eraFound, yearFound, monthFound]
    omega

/-- A year that has a day three hundred and sixty-five has a twenty-ninth of February. -/
theorem isLeapYear_of_day {d : DayOfEra} (leapDay : d.day = 365) (era : Int) :
    isLeapYear (d.yearOfEra + era * 400 + 1) = true := by
  have bounds := d.bounds
  rw [isLeapYear_iff]
  simp only [yearOfEra]
  omega

/-- A date has no day that its month does not have. Only the last month, which is February, depends
on the year. -/
theorem day_le_daysInMonth (era : Int) (d : DayOfEra) :
    (d.date era).day ≤ daysInMonth (d.date era).year (d.date era).month := by
  have bounds := d.bounds
  have monthBegins : 153 * d.monthFromMarch ≤ 5 * d.day + 2 ∧
      5 * d.day + 2 < 153 * (d.monthFromMarch + 1) := by
    simp only [monthFromMarch]
    omega
  have fromMonth : d.dayOfMonth = d.day - (153 * d.monthFromMarch + 2) / 5 := rfl
  obtain ⟨monthNonneg, monthLe, -, -⟩ := d.month_bounds
  unfold date daysInMonth
  rw [fromMonth]
  split
  · dsimp only
    split_ifs with february leapYear short <;> omega
  · dsimp only
    split_ifs with february leapYear short
    · omega
    · have noLeapDay : d.day ≠ 365 := fun leapDay => leapYear (isLeapYear_of_day leapDay era)
      omega
    · omega
    · omega

theorem date_bounds (era : Int) (d : DayOfEra) :
    1 ≤ (d.date era).month ∧ (d.date era).month ≤ 12 ∧
      1 ≤ (d.date era).day ∧ (d.date era).day ≤ 31 := by
  obtain ⟨monthNonneg, monthLe, dayNonneg, dayLe⟩ := d.month_bounds
  unfold date
  split <;> dsimp only <;> omega

/-- The date exists, as far as its year is one that dates can have. -/
theorem isValid_date {era : Int} {d : DayOfEra} (least : leastYear ≤ (d.date era).year)
    (greatest : (d.date era).year ≤ greatestYear) : (d.date era).isValid = true := by
  have dayFits := d.day_le_daysInMonth era
  obtain ⟨monthFirst, monthLast, dayFirst, -⟩ := d.date_bounds era
  simp [isValid, least, greatest, monthFirst, monthLast, dayFirst, dayFits]

end DayOfEra

/-- Every number of days is a day of some era. -/
theorem exists_number_of_days (days : Int) :
    ∃ (d : DayOfEra) (era : Int), days = d.number + era * daysInEra - epochShift := by
  obtain ⟨d, numberEq⟩ := DayOfEra.exists_number_eq (n := (days + epochShift) % daysInEra)
    (Int.emod_nonneg _ (by decide)) (Int.emod_lt_of_pos _ (by decide))
  refine ⟨d, (days + epochShift) / daysInEra, ?_⟩
  have parts := Int.emod_add_ediv_mul (days + epochShift) daysInEra
  omega

theorem ofDays_bounds (days : Int) :
    1 ≤ (ofDays days).month ∧ (ofDays days).month ≤ 12 ∧
      1 ≤ (ofDays days).day ∧ (ofDays days).day ≤ 31 := by
  obtain ⟨d, era, rfl⟩ := exists_number_of_days days
  rw [d.ofDays_number]
  exact d.date_bounds era

/-- The date of a number of days has that number of days. -/
theorem toDays_ofDays (days : Int) : (ofDays days).toDays = days := by
  obtain ⟨d, era, rfl⟩ := exists_number_of_days days
  rw [d.ofDays_number, d.toDays_date]

/-- The date of a number of days exists, as far as its year is one that dates can have. -/
theorem isValid_ofDays {days : Int} (least : leastYear ≤ (ofDays days).year)
    (greatest : (ofDays days).year ≤ greatestYear) : (ofDays days).isValid = true := by
  obtain ⟨d, era, rfl⟩ := exists_number_of_days days
  rw [d.ofDays_number] at least greatest ⊢
  exact d.isValid_date least greatest

end EntityGateway.Date
