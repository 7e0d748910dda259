import EntityGateway.Proofs.Time.Calendar
import EntityGateway.Proofs.Time.Interchange

/-!
# Reading written instants

The text of an instant is in the interchange format, and is read as the instant, as long as its year
has four digits (`read?_text`). Earlier and later years are written with a sign, which the
interchange format does not have: no such text is read (`read?_text_eq_none`).
-/

namespace EntityGateway.Instant

open EntityGateway.Text

/-! ## The fraction of a second -/

/-- The digits of a fraction up to some place stand for the number of its nanoseconds. -/
theorem writesFraction_padded {width n nanos : Nat} (positive : 0 < width) (fits : width ≤ 9)
    (bound : n < Nat.pow 10 width) (whole : n * Nat.pow 10 (9 - width) = nanos) :
    WritesFraction ('.' :: padded width n) nanos := by
  have length := length_padded positive bound
  have all : (padded width n).take 9 = padded width n :=
    List.take_of_length_le (Nat.le_trans (Nat.le_of_eq length) fits)
  have value : nanosOf (padded width n) = nanos := by
    rw [nanosOf_eq, all, ofDigitChars_padded, length, whole]
  exact value ▸ .digits (padded_ne_nil width n) isDigit_of_mem_padded

/-- A fraction of a second is written for its nanoseconds. -/
theorem writesFraction_fractionChars {nanos : Nat} (bound : nanos < 1_000_000_000) :
    WritesFraction (fractionChars nanos) nanos := by
  unfold fractionChars
  split
  · rename_i zero
    exact zero ▸ .absent
  · split
    · have small : nanos / 1_000_000 < 1_000 := by omega
      have whole : nanos / 1_000_000 * 1_000_000 = nanos := by omega
      exact writesFraction_padded (by decide) (by decide) small whole
    · split
      · have small : nanos / 1_000 < 1_000_000 := by omega
        have whole : nanos / 1_000 * 1_000 = nanos := by omega
        exact writesFraction_padded (by decide) (by decide) small whole
      · exact writesFraction_padded (by decide) (by decide) bound (Nat.mul_one nanos)

/-! ## The instant -/

/-- The year has the four digits that the interchange format gives it. -/
def HasFourDigitYear (i : Instant) : Prop :=
  0 ≤ (Date.ofDays i.days).year ∧ (Date.ofDays i.days).year ≤ 9999

instance (i : Instant) : Decidable i.HasFourDigitYear :=
  inferInstanceAs (Decidable (_ ∧ _))

theorem of?_self (i : Instant) : of? i.seconds i.nanos = some i :=
  dif_pos ⟨i.nanos_lt, i.leap_ends_minute⟩

theorem clock_bounds (i : Instant) : i.hour ≤ 23 ∧ i.minute ≤ 59 ∧ i.second ≤ 60 := by
  have nanosLt := i.nanos_lt
  have leapEnds := i.leap_ends_minute
  simp only [hour, minute, second, secondOfDay]
  omega

/-- The date and the time of day of an instant are those of the instant. -/
theorem instant?_reading {i : Instant} (fourDigits : i.HasFourDigitYear) :
    Reading.instant? ⟨Date.ofDays i.days, i.hour, i.minute, i.second, i.fraction⟩ 0 = some i := by
  have dateExists : (Date.ofDays i.days).isValid = true :=
    Date.isValid_ofDays (Int.le_trans (by decide) fourDigits.1)
      (Int.le_trans fourDigits.2 (by decide))
  have nanosLt := i.nanos_lt
  have leapEnds := i.leap_ends_minute
  have parts : i.seconds = i.days * 86400 + i.secondOfDay := by
    simp only [days, secondOfDay]
    omega
  have secondOfDay : i.secondOfDay = i.hour * 3600 + i.minute * 60 + i.secondOfDay % 60 := by
    simp only [hour, minute]
    omega
  rw [Reading.instant?, if_pos ⟨dateExists, i.clock_bounds⟩]
  simp only [Date.toDays_ofDays]
  by_cases leap : 1_000_000_000 ≤ i.nanos
  · have lastSecond : i.secondOfDay % 60 = 59 := by
      have ends := i.leap_ends_minute leap
      omega
    have sixty : i.second = 60 := by
      simp only [second, lastSecond]
      omega
    have nanos : i.fraction + 1_000_000_000 = i.nanos := by
      simp only [fraction]
      omega
    have seconds : i.days * 86400 + (i.hour * 3600 + i.minute * 60 + (59 : Nat)) - 0 * 60 =
        i.seconds := by omega
    rw [if_pos sixty, if_pos sixty, nanos, seconds]
    exact i.of?_self
  · have second : i.second = i.secondOfDay % 60 := by
      simp only [Instant.second]
      omega
    have notSixty : i.second ≠ 60 := by omega
    have nanos : i.fraction = i.nanos := by
      simp only [fraction]
      omega
    have seconds : i.days * 86400 + (i.hour * 3600 + i.minute * 60 + i.second) - 0 * 60 =
        i.seconds := by omega
    rw [if_neg notSixty, if_neg notSixty, nanos, seconds]
    exact i.of?_self

/-- What an instant is written with, other than its year and its fraction, has two digits. -/
theorem parts_lt (i : Instant) :
    (Date.ofDays i.days).month < 100 ∧ (Date.ofDays i.days).day < 100 ∧
      i.hour < 100 ∧ i.minute < 100 ∧ i.second < 100 := by
  obtain ⟨-, monthLast, -, dayLast⟩ := Date.ofDays_bounds i.days
  obtain ⟨hourLast, minuteLast, secondLast⟩ := i.clock_bounds
  omega

theorem HasFourDigitYear.year_lt {i : Instant} (fourDigits : i.HasFourDigitYear) :
    (Date.ofDays i.days).year.toNat < 10000 := by
  obtain ⟨yearNonneg, yearLast⟩ := fourDigits
  omega

/-- The characters of an instant are read as the instant. -/
theorem readChars?_chars {i : Instant} (fourDigits : i.HasFourDigitYear) :
    readChars? i.chars = some i := by
  obtain ⟨monthFits, dayFits, hourFits, minuteFits, secondFits⟩ := i.parts_lt
  have fractionFits : i.fraction < 1_000_000_000 := Nat.mod_lt _ (by decide)
  refine readChars?_eq_some_iff.mpr ⟨_, 'T', ['Z'], 0, by decide, .upper, ⟨?_, _,
    writesFraction_fractionChars fractionFits, ?_⟩, instant?_reading fourDigits⟩
  · exact ⟨⟨fourDigits.1, fourDigits.2, monthFits, dayFits⟩, hourFits, minuteFits, secondFits⟩
  · rw [chars, yearChars, if_pos (show _ ∧ _ from fourDigits), clockChars]
    simp [Date.chars, Reading.clockChars]

/-- The text of an instant whose year has four digits is read as the instant. -/
theorem read?_text {i : Instant} (fourDigits : i.HasFourDigitYear) : read? i.text = some i := by
  rw [read?, text, String.toList_ofList, readChars?_chars fourDigits]

theorem readLenient?_text {i : Instant} (fourDigits : i.HasFourDigitYear) :
    readLenient? i.text = some i := by
  rw [readLenient?, text, String.toList_ofList, readChars?_chars fourDigits]
  rfl

/-- Other years begin with a sign, and the interchange format begins with a digit. -/
theorem read?_text_eq_none {i : Instant} (other : ¬ i.HasFourDigitYear) : read? i.text = none := by
  obtain ⟨sign, digits, written, noDigit⟩ :
      ∃ sign digits, i.chars = sign :: digits ∧ sign.isDigit = false := by
    rw [chars, yearChars, if_neg (show ¬(_ ∧ _) from other)]
    exact ⟨_, _, rfl, by split <;> decide⟩
  rw [read?, text, String.toList_ofList, written, readChars?, fixedNumber?,
    takeDigits_of_noneAhead (noneAhead_cons.mpr noDigit)]
  rfl

end EntityGateway.Instant
