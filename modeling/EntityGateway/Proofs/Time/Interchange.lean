import EntityGateway.Proofs.Time.Digits
import Mathlib.Tactic.SplitIfs

/-!
# The interchange format

Which texts the reader of the interchange format accepts, and as what. Every number has a fixed
number of digits, which its value determines (`fixedNumber?_eq_some_iff`), so an accepted text is
one date and one time of day written out, then a fraction of a second, then an offset from
universal time (`readChars?_eq_some_iff`). A text that ends in `Z` is at no offset, and all before
its `Z` is a date and a time of day (`readChars?_append_Z_iff`).
-/

namespace EntityGateway

open Text

/-- The characters of a date whose year has four digits, `2024-02-29`. -/
def Date.chars (d : Date) : List Char :=
  Instant.padded 4 d.year.toNat ++ '-' :: Instant.padded 2 d.month ++ '-' :: Instant.padded 2 d.day

/-- The date has no more digits than the interchange format has room for. -/
structure Date.Fits (d : Date) : Prop where
  year_nonneg : 0 ≤ d.year
  year_le : d.year ≤ 9999
  month_lt : d.month < 100
  day_lt : d.day < 100

namespace Date.Fits

variable {d : Date}

theorem toNat_year (fits : d.Fits) : (d.year.toNat : Int) = d.year :=
  Int.toNat_of_nonneg fits.year_nonneg

theorem toNat_year_lt (fits : d.Fits) : d.year.toNat < 10000 := by
  have last := fits.year_le
  omega

/-- A month has two digits, and so has a day. -/
theorem of_isValid (dateExists : d.isValid = true) (nonneg : 0 ≤ d.year) (last : d.year ≤ 9999) :
    d.Fits := by
  simp only [isValid, Bool.and_eq_true, decide_eq_true_eq] at dateExists
  obtain ⟨⟨⟨-, monthLe⟩, -⟩, dayLe⟩ := dateExists
  have longest : daysInMonth d.year d.month ≤ 31 := by
    unfold daysInMonth
    split_ifs <;> decide
  exact ⟨nonneg, last, by omega, by omega⟩

end Date.Fits

namespace Instant

/-! ## Fractions of a second -/

/-- The nanoseconds that the digits of a fraction stand for: its first nine digits, with zeros for
those that it does not have. -/
def nanosOf (digits : List Char) : Nat :=
  Nat.ofDigitChars 10 ((digits ++ List.replicate 9 '0').take 9) 0

/-- What is written for a fraction of a second: nothing, or a point and any number of digits. -/
inductive WritesFraction : List Char → Nat → Prop
  | absent : WritesFraction [] 0
  | digits {digits : List Char} (visible : digits ≠ [])
      (each : ∀ c ∈ digits, c.isDigit = true) : WritesFraction ('.' :: digits) (nanosOf digits)

theorem nanosOf_eq (digits : List Char) :
    nanosOf digits =
      Nat.ofDigitChars 10 (digits.take 9) 0 * Nat.pow 10 (9 - (digits.take 9).length) := by
  have zeros : 9 - (digits.take 9).length = min (9 - digits.length) 9 := by
    rw [List.length_take]
    omega
  rw [nanosOf, List.take_append, List.take_replicate, Nat.ofDigitChars_append,
    Nat.ofDigitChars_replicate_zero, zeros, Nat.mul_comm]
  rfl

theorem isSome_digitValue? (c : Char) : (digitValue? c).isSome = c.isDigit := by
  cases digit : c.isDigit with
  | false => rw [digitValue?_of_not_isDigit digit, Option.isSome_none]
  | true => rw [digitValue?_of_isDigit digit, Option.isSome_some]

/-- However many digits a fraction has, its first nine count and all of them are passed over. -/
theorem fraction?_point {digits rest : List Char} (visible : digits ≠ [])
    (each : ∀ c ∈ digits, c.isDigit = true) (stops : NoneAhead Char.isDigit rest) :
    fraction? ('.' :: (digits ++ rest)) = some (nanosOf digits, rest) := by
  have taken : takeDigits 0 9 (digits.take 9 ++ (digits.drop 9 ++ rest)) = _ :=
    takeDigits_append (fun c member => each c (List.mem_of_mem_take member))
      (List.length_take_le 9 digits) fun short => by
        have all : digits.drop 9 = [] := List.drop_eq_nil_of_le (by grind)
        rwa [all, List.nil_append]
  rw [← List.append_assoc, List.take_append_drop] at taken
  have nonempty : (digits.take 9).length ≠ 0 := by
    have positive := List.length_pos_iff.mpr visible
    rw [List.length_take]
    omega
  have dropped :
      (digits.drop 9 ++ rest).dropWhile (fun c => (digitValue? c).isSome) = rest := by
    simp only [isSome_digitValue?]
    rw [List.dropWhile_append_of_pos fun c member => each c (List.mem_of_mem_drop member)]
    cases rest with
    | nil => rfl
    | cons c rest => simp [noneAhead_cons.mp stops]
  simp only [fraction?, taken, if_neg nonempty, dropped, nanosOf_eq]

theorem WritesFraction.lt {fraction : List Char} {nanos : Nat}
    (writes : WritesFraction fraction nanos) : nanos < 1_000_000_000 := by
  cases writes with
  | absent => decide
  | @digits digits visible each =>
      have nine : ((digits ++ List.replicate 9 '0').take 9).length = 9 := by simp
      have digit : ∀ c ∈ (digits ++ List.replicate 9 '0').take 9, c.isDigit = true := by
        intro c member
        rcases List.mem_append.mp (List.mem_of_mem_take member) with own | zero
        · exact each c own
        · rw [List.eq_of_mem_replicate zero]
          decide
      have bound := ofDigitChars_lt digit (List.ne_nil_of_length_pos (by omega))
      rwa [nine] at bound

/-- A fraction is read as what it stands for, in front of a rest that no one takes for more of
it. -/
theorem WritesFraction.fraction?_append {fraction rest : List Char} {nanos : Nat}
    (writes : WritesFraction fraction nanos) (noDigit : NoneAhead Char.isDigit rest)
    (noPoint : NotAhead '.' rest) : fraction? (fraction ++ rest) = some (nanos, rest) := by
  cases writes with
  | absent =>
      cases rest with
      | nil => rfl
      | cons c rest =>
          have other : c ≠ '.' := by simpa using noPoint
          rw [List.nil_append, fraction?]
          simpa using other
  | digits visible each => exact fraction?_point visible each noDigit

/-- What is read as a fraction is written as one. -/
theorem exists_writesFraction {cs rest : List Char} {nanos : Nat}
    (read : fraction? cs = some (nanos, rest)) :
    ∃ fraction, WritesFraction fraction nanos ∧ cs = fraction ++ rest := by
  by_cases point : ∃ tail, cs = '.' :: tail
  · obtain ⟨tail, rfl⟩ := point
    -- the reader stops where the digits end, though it counts no more than nine of them
    have parts := List.takeWhile_append_dropWhile (p := Char.isDigit) (l := tail)
    have stops : NoneAhead Char.isDigit (tail.dropWhile Char.isDigit) := by
      intro c first
      have last := List.head?_dropWhile_not Char.isDigit tail
      rw [Option.mem_def.mp first] at last
      exact last
    have each : ∀ c ∈ tail.takeWhile Char.isDigit, c.isDigit = true :=
      List.all_eq_true.mp List.all_takeWhile
    rcases eq_or_ne (tail.takeWhile Char.isDigit) [] with noDigits | visible
    · rw [noDigits, List.nil_append] at parts
      rw [parts] at stops
      simp [fraction?, takeDigits_of_noneAhead stops] at read
    · rw [← parts, fraction?_point visible each stops] at read
      simp only [Option.some.injEq, Prod.mk.injEq] at read
      obtain ⟨rfl, rfl⟩ := read
      exact ⟨_, .digits visible each, by rw [List.cons_append, parts]⟩
  · rw [fraction?] at read
    · simp only [Option.some.injEq, Prod.mk.injEq] at read
      obtain ⟨rfl, rfl⟩ := read
      exact ⟨[], .absent, rfl⟩
    · exact fun tail same => point ⟨tail, same⟩

/-! ## Offsets from universal time -/

/-- What is written for an offset of some minutes from universal time: `Z` in either case for none,
or a sign, hours and minutes. -/
inductive WritesOffset : List Char → Int → Prop
  | upper : WritesOffset ['Z'] 0
  | lower : WritesOffset ['z'] 0
  | ahead {hours minutes : Nat} (hours_le : hours ≤ 23) (minutes_le : minutes ≤ 59) :
      WritesOffset ('+' :: (padded 2 hours ++ ':' :: padded 2 minutes)) (hours * 60 + minutes)
  | behind {hours minutes : Nat} {sign : Char} (minus : sign = '-' ∨ sign = '\u2212')
      (hours_le : hours ≤ 23) (minutes_le : minutes ≤ 59) :
      WritesOffset (sign :: (padded 2 hours ++ ':' :: padded 2 minutes)) (-(hours * 60 + minutes))

theorem WritesOffset.visible {offset : List Char} {minutes : Int}
    (writes : WritesOffset offset minutes) : offset ≠ [] := by
  cases writes <;> simp

/-- An offset begins with nothing that a fraction of a second can go on with. -/
theorem WritesOffset.noneAhead {offset : List Char} {minutes : Int}
    (writes : WritesOffset offset minutes) :
    NoneAhead Char.isDigit offset ∧ NotAhead '.' offset := by
  cases writes with
  | behind minus => rcases minus with rfl | rfl <;> simp
  | _ => simp

/-- The hours and minutes of an offset, behind its sign. -/
def signedOffset? (negative : Bool) (cs : List Char) : Option (Int × List Char) := do
  let (hours, cs) ← fixedNumber? 2 cs
  let cs ← exactly? ':' cs
  let (minutes, cs) ← fixedNumber? 2 cs
  if hours ≤ 23 ∧ minutes ≤ 59 then
    let total : Int := hours * 60 + minutes
    some (if negative then -total else total, cs)
  else none

theorem offset?_cons (c : Char) (cs : List Char) :
    offset? (c :: cs) =
      if c = 'Z' ∨ c = 'z' then some (0, cs)
      else if c = '+' then signedOffset? false cs
      else if c = '-' ∨ c = '\u2212' then signedOffset? true cs
      else none := by
  unfold offset?
  split <;> simp_all [signedOffset?]

theorem signedOffset?_eq_some_iff {negative : Bool} {cs : List Char} {offset : Int} :
    signedOffset? negative cs = some (offset, []) ↔
      ∃ hours minutes, (hours ≤ 23 ∧ minutes ≤ 59) ∧
        cs = padded 2 hours ++ ':' :: padded 2 minutes ∧
          offset = if negative then -(hours * 60 + minutes : Int) else hours * 60 + minutes := by
  simp only [signedOffset?, Option.bind_eq_bind, Option.bind_eq_some_iff, Prod.exists,
    fixedNumber?_eq_some_iff (by decide : 0 < 2), exactly?_eq_some_iff,
    Option.ite_none_right_eq_some, Option.some.injEq, Prod.mk.injEq]
  constructor
  · rintro ⟨hours, _, ⟨-, rfl⟩, _, rfl, minutes, _, ⟨-, rfl⟩, exist, rfl, rfl⟩
    exact ⟨hours, minutes, exist, by rw [List.append_nil], rfl⟩
  · rintro ⟨hours, minutes, exist, rfl, rfl⟩
    have hoursLt : hours < Nat.pow 10 2 := Nat.lt_of_le_of_lt exist.1 (by decide)
    have minutesLt : minutes < Nat.pow 10 2 := Nat.lt_of_le_of_lt exist.2 (by decide)
    exact ⟨hours, _, ⟨hoursLt, rfl⟩, _, rfl, minutes, [], ⟨minutesLt, (List.append_nil _).symm⟩,
      exist, rfl, rfl⟩

/-- An offset that ends a text is read exactly where it is written. -/
theorem offset?_eq_some_iff {cs : List Char} {minutes : Int} :
    offset? cs = some (minutes, []) ↔ WritesOffset cs minutes := by
  constructor
  · intro read
    cases cs with
    | nil => cases read
    | cons c cs =>
        rw [offset?_cons] at read
        split_ifs at read with universal plus minus
        · obtain ⟨rfl, rfl⟩ := by simpa using read
          rcases universal with rfl | rfl
          · exact .upper
          · exact .lower
        · obtain ⟨hours, minutes, ⟨hoursLe, minutesLe⟩, rfl, rfl⟩ :=
            signedOffset?_eq_some_iff.mp read
          subst plus
          exact .ahead hoursLe minutesLe
        · obtain ⟨hours, minutes, ⟨hoursLe, minutesLe⟩, rfl, rfl⟩ :=
            signedOffset?_eq_some_iff.mp read
          exact .behind minus hoursLe minutesLe
  · intro writes
    cases writes with
    | upper => rfl
    | lower => rfl
    | ahead hoursLe minutesLe =>
        exact signedOffset?_eq_some_iff.mpr ⟨_, _, ⟨hoursLe, minutesLe⟩, rfl, rfl⟩
    | behind minus hoursLe minutesLe =>
        rw [offset?_cons]
        rcases minus with rfl | rfl
        · exact signedOffset?_eq_some_iff.mpr ⟨_, _, ⟨hoursLe, minutesLe⟩, rfl, rfl⟩
        · exact signedOffset?_eq_some_iff.mpr ⟨_, _, ⟨hoursLe, minutesLe⟩, rfl, rfl⟩

/-! ## Dates and times of day -/

/-- The characters of a time of day without its fraction, `23:59:60`. -/
def Reading.clockChars (r : Reading) : List Char :=
  padded 2 r.hour ++ ':' :: padded 2 r.minute ++ ':' :: padded 2 r.second

/-- The date and the time of day exist; a leap second is the sixtieth second of any minute. -/
def Reading.Exists (r : Reading) : Prop :=
  r.date.isValid = true ∧ r.hour ≤ 23 ∧ r.minute ≤ 59 ∧ r.second ≤ 60

/-- The date and the time of day have no more digits than the interchange format has room for. -/
structure Reading.Fits (r : Reading) : Prop where
  date : r.date.Fits
  hour_lt : r.hour < 100
  minute_lt : r.minute < 100
  second_lt : r.second < 100

/-- The characters are the date and the time of day in the interchange format, which ends with the
offset from universal time. -/
structure Reading.IsWritten (r : Reading) (separator : Char) (offset cs : List Char) : Prop where
  fits : r.Fits
  chars : ∃ fraction, WritesFraction fraction r.nanos ∧
    cs = r.date.chars ++ separator :: (r.clockChars ++ (fraction ++ offset))

/-- What may stand between the date and the time of day. -/
def separators : List Char := ['T', 't', ' ']

theorem separator?_eq_some_iff {cs rest : List Char} :
    (exactly? 'T' cs <|> exactly? 't' cs <|> exactly? ' ' cs) = some rest ↔
      ∃ separator ∈ separators, cs = separator :: rest := by
  cases cs with
  | nil => simp [exactly?]
  | cons c cs =>
      simp only [exactly?, separators, List.cons.injEq, List.mem_cons, List.not_mem_nil, or_false]
      split_ifs <;> simp_all

/-- The interchange format, as the texts that are read as an instant: a date and a time of day of
four and two digits each, and an offset, that name the instant. -/
theorem readChars?_eq_some_iff {cs : List Char} {i : Instant} :
    readChars? cs = some i ↔
      ∃ r separator offset minutes, separator ∈ separators ∧ WritesOffset offset minutes ∧
        Reading.IsWritten r separator offset cs ∧ r.instant? minutes = some i := by
  constructor
  · intro read
    simp only [readChars?, Option.bind_eq_bind, Option.bind_eq_some_iff, Prod.exists,
      fixedNumber?_eq_some_iff (by decide : 0 < 4), fixedNumber?_eq_some_iff (by decide : 0 < 2),
      exactly?_eq_some_iff, separator?_eq_some_iff, Option.ite_none_right_eq_some,
      List.isEmpty_iff] at read
    obtain ⟨year, _, ⟨yearLt, rfl⟩, _, rfl, month, _, ⟨monthLt, rfl⟩, _, rfl, day, _, ⟨dayLt, rfl⟩,
      _, ⟨separator, separates, rfl⟩, hour, _, ⟨hourLt, rfl⟩, _, rfl, minute, _, ⟨minuteLt, rfl⟩,
      _, rfl, second, _, ⟨secondLt, rfl⟩, nanos, offset, fractionRead, minutes, _, offsetRead,
      rfl, instant⟩ := read
    obtain ⟨fraction, writes, rfl⟩ := exists_writesFraction fractionRead
    have yearLe : (year : Int) ≤ 9999 := Int.ofNat_le.mpr (Nat.le_of_lt_succ yearLt)
    refine ⟨_, separator, offset, minutes, separates, offset?_eq_some_iff.mp offsetRead,
      ⟨⟨⟨Int.natCast_nonneg year, yearLe, monthLt, dayLt⟩, hourLt, minuteLt, secondLt⟩,
        fraction, writes, ?_⟩, instant⟩
    simp [Date.chars, Reading.clockChars]
  · rintro ⟨r, separator, offset, minutes, separates, offsetWrites, ⟨fits, fraction, writes, rfl⟩,
      instant⟩
    have separated (rest : List Char) :
        (exactly? 'T' (separator :: rest) <|> exactly? 't' (separator :: rest) <|>
          exactly? ' ' (separator :: rest)) = some rest :=
      separator?_eq_some_iff.mpr ⟨separator, separates, rfl⟩
    obtain ⟨noDigit, noPoint⟩ := offsetWrites.noneAhead
    have two : 0 < 2 := by decide
    simp only [Date.chars, Reading.clockChars, List.append_assoc, List.cons_append, readChars?,
      exactly?_cons, fixedNumber?_padded (by decide : 0 < 4) fits.date.toNat_year_lt,
      fixedNumber?_padded two fits.date.month_lt, fixedNumber?_padded two fits.date.day_lt,
      fixedNumber?_padded two fits.hour_lt, fixedNumber?_padded two fits.minute_lt,
      fixedNumber?_padded two fits.second_lt, writes.fraction?_append noDigit noPoint,
      offset?_eq_some_iff.mpr offsetWrites, separated,
      Option.bind_eq_bind, Option.bind_some, List.isEmpty_nil, if_true, fits.date.toNat_year]
    exact instant

/-! ## Texts at no offset -/

/-- No offset with a sign ends in `Z`. -/
theorem WritesOffset.eq_of_getLast? {offset : List Char} {minutes : Int}
    (writes : WritesOffset offset minutes) (last : offset.getLast? = some 'Z') :
    offset = ['Z'] ∧ minutes = 0 := by
  have signed (sign : Char) (hours rest : Nat) :
      (sign :: (padded 2 hours ++ ':' :: padded 2 rest)).getLast? ≠ some 'Z' := by
    have parts : sign :: (padded 2 hours ++ ':' :: padded 2 rest) =
        (sign :: padded 2 hours ++ [':']) ++ padded 2 rest := by simp
    rw [parts, List.getLast?_append_of_ne_nil _ (padded_ne_nil 2 rest)]
    intro last
    have digit := isDigit_of_mem_padded 'Z' (List.mem_of_getLast? last)
    cases digit
  cases writes with
  | upper => exact ⟨rfl, rfl⟩
  | lower => simp at last
  | ahead => exact absurd last (signed _ _ _)
  | behind => exact absurd last (signed _ _ _)

/-- Before a `Z` stands a date and a time of day. -/
theorem readChars?_append_Z_iff {cs : List Char} {i : Instant} :
    readChars? (cs ++ ['Z']) = some i ↔
      ∃ r separator, separator ∈ separators ∧ Reading.IsWritten r separator [] cs ∧
        r.instant? 0 = some i := by
  rw [readChars?_eq_some_iff]
  constructor
  · rintro ⟨r, separator, offset, minutes, separates, offsetWrites, ⟨fits, fraction, writes, same⟩,
      instant⟩
    have parts : cs ++ ['Z'] =
        (r.date.chars ++ separator :: (r.clockChars ++ fraction)) ++ offset := by simpa using same
    have last := congrArg List.getLast? parts
    rw [List.getLast?_concat, List.getLast?_append_of_ne_nil _ offsetWrites.visible] at last
    obtain ⟨rfl, rfl⟩ := offsetWrites.eq_of_getLast? last.symm
    have front := List.append_cancel_right parts
    exact ⟨r, separator, separates, ⟨fits, fraction, writes, by rw [front, List.append_nil]⟩,
      instant⟩
  · rintro ⟨r, separator, separates, ⟨fits, fraction, writes, rfl⟩, instant⟩
    exact ⟨r, separator, ['Z'], 0, separates, .upper, ⟨fits, fraction, writes, by simp⟩, instant⟩

/-- A date and a time of day are an instant at every offset if they exist, and else at none. -/
theorem exists_instant?_iff {r : Reading} (nanosLt : r.nanos < 1_000_000_000) (minutes : Int) :
    (∃ i, r.instant? minutes = some i) ↔ r.Exists := by
  simp only [Reading.instant?, Reading.Exists, Option.ite_none_right_eq_some, exists_and_left]
  refine and_iff_left_of_imp fun _ => ?_
  by_cases leap : r.second = 60
  · simp only [of?, leap, if_true]
    exact ⟨_, dif_pos ⟨by omega, fun _ => by omega⟩⟩
  · simp only [of?, leap, if_false]
    exact ⟨_, dif_pos ⟨by omega, fun late => absurd late (by omega)⟩⟩

end Instant

end EntityGateway
