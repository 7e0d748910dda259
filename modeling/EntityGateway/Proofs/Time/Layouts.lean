import EntityGateway.Proofs.Coercion
import EntityGateway.Proofs.Time.Interchange

/-!
# Instants without an offset

A text is tried in the interchange format and then in three layouts that have no offset. No text is
in two of the four (`pairwise_layouts`): a layout reads the date of the interchange format as it
stands there, and then finds an offset where its text has to end; and what the layouts have between
the date and the time of day, or in place of both, tells them apart. So each text may be tried in
any order. A text without an offset stands for the instant that it stands for with a `Z` behind it,
and a date alone for its first instant.
-/

namespace EntityGateway

open Text

namespace Instant

variable {cs : List Char} {i : Instant} {r : Reading} {d : Date}

/-! ## What the layouts make of fixed numbers of digits -/

theorem trimStart_of_noneAhead (visible : NoneAhead isBlank cs) : trimStart cs = cs := by
  cases cs with
  | nil => rfl
  | cons c cs => exact List.dropWhile_cons_of_neg (by simpa using visible)

theorem isBlank_of_isDigit {c : Char} (digit : c.isDigit = true) : isBlank c = false := by
  obtain ⟨least, greatest⟩ := toNat_bounds_of_isDigit digit
  simp only [isBlank]
  grind

theorem noneAhead_padded {p : Char → Bool} (noDigit : ∀ c, c.isDigit = true → p c = false)
    (width n : Nat) (rest : List Char) : NoneAhead p (padded width n ++ rest) := by
  refine NoneAhead.append (fun c first => ?_) (padded_ne_nil width n) rest
  exact noDigit c (isDigit_of_mem_padded c (List.mem_of_head? first))

theorem trimStart_padded (width n : Nat) (rest : List Char) :
    trimStart (padded width n ++ rest) = padded width n ++ rest :=
  trimStart_of_noneAhead (noneAhead_padded (fun _ => isBlank_of_isDigit) width n rest)

/-- Digits that fill a number up are read as the number, whatever follows. -/
theorem shortNumber?_padded {width n : Nat} (positive : 0 < width) (bound : n < Nat.pow 10 width)
    (rest : List Char) : shortNumber? width (padded width n ++ rest) = some (n, rest) := by
  rw [shortNumber?, takeDigits_padded positive bound]
  exact if_neg (Nat.ne_of_gt positive)

theorem layoutNumber?_padded {n : Nat} (bound : n < 100) (rest : List Char) :
    layoutNumber? (padded 2 n ++ rest) = some (n, rest) := by
  rw [layoutNumber?, trimStart_padded, shortNumber?_padded (by decide) bound]

/-- A year of four digits without a sign is read as it is. -/
theorem layoutYear?_padded {n : Nat} (bound : n < 10000) (rest : List Char) :
    layoutYear? (padded 4 n ++ rest) = some ((n : Int), rest) := by
  have unsigned (sign : Char) (noDigit : sign.isDigit = false) (cs : List Char) :
      padded 4 n ++ rest ≠ sign :: cs := by
    intro same
    have digit := noneAhead_padded (p := fun c => !c.isDigit) (by simp) 4 n rest
    simp [same, noDigit] at digit
  rw [layoutYear?, trimStart_padded]
  split
  · rename_i same
    exact absurd same (unsigned '-' rfl _)
  · rename_i same
    exact absurd same (unsigned '+' rfl _)
  · rw [shortNumber?_padded (by decide) bound]
    rfl

/-- Dates with years of four digits are read alike by all layouts. -/
theorem layoutDate?_chars (fits : d.Fits) (rest : List Char) :
    layoutDate? (d.chars ++ rest) = some (d, rest) := by
  simp only [layoutDate?, Date.chars, List.append_assoc, List.cons_append,
    layoutYear?_padded fits.toNat_year_lt, layoutNumber?_padded fits.month_lt,
    layoutNumber?_padded fits.day_lt, exactly?_cons, Option.bind_eq_bind, Option.bind_some,
    fits.toNat_year]

/-- One blank is skipped, and no more than the blank. -/
theorem trimStart_blank_clockChars (r : Reading) (rest : List Char) :
    trimStart (' ' :: (r.clockChars ++ rest)) = r.clockChars ++ rest := by
  have skipped : trimStart (' ' :: (r.clockChars ++ rest)) = trimStart (r.clockChars ++ rest) :=
    List.dropWhile_cons_of_pos rfl
  rw [skipped, Reading.clockChars, List.append_assoc, List.append_assoc, trimStart_padded]

/-- The text of a layout ends with the fraction of its second. -/
theorem layoutTime?_clockChars (fits : r.Fits) {fraction rest : List Char}
    (writes : WritesFraction fraction r.nanos) (noDigit : NoneAhead Char.isDigit rest)
    (noPoint : NotAhead '.' rest) :
    layoutTime? r.date (r.clockChars ++ (fraction ++ rest)) =
      if rest = [] then r.instant? 0 else none := by
  simp only [layoutTime?, Reading.clockChars, List.append_assoc, List.cons_append,
    layoutNumber?_padded fits.hour_lt, layoutNumber?_padded fits.minute_lt,
    layoutNumber?_padded fits.second_lt, exactly?_cons, writes.fraction?_append noDigit noPoint,
    Option.bind_eq_bind, Option.bind_some, List.isEmpty_iff]

/-- The first layout asks for a `T` behind the date. -/
theorem readSeparated?_chars (fits : d.Fits) (separator : Char) (rest : List Char) :
    readSeparated? (d.chars ++ separator :: rest) =
      if separator = 'T' then layoutTime? d rest else none := by
  simp only [readSeparated?, layoutDate?_chars fits, Option.bind_eq_bind, Option.bind_some,
    exactly?]
  split <;> rfl

/-- The second layout passes over blanks behind the date, and puts up with there being none. -/
theorem readSpaced?_chars (fits : d.Fits) (rest : List Char) :
    readSpaced? (d.chars ++ rest) = layoutTime? d (trimStart rest) := by
  simp only [readSpaced?, layoutDate?_chars fits, Option.bind_eq_bind, Option.bind_some]

/-- The first moment of a date. -/
def Reading.midnight (d : Date) : Reading :=
  ⟨d, 0, 0, 0, 0⟩

/-- The last layout reads a date that nothing follows as its first moment. -/
theorem readDate?_chars (fits : d.Fits) (rest : List Char) :
    readDate? (d.chars ++ rest) =
      if rest = [] then (Reading.midnight d).instant? 0 else none := by
  simp only [readDate?, layoutDate?_chars fits, Option.bind_eq_bind, Option.bind_some,
    List.isEmpty_iff, Reading.midnight]

/-! ## No text is in two layouts -/

/-- No text is read by both. -/
def Exclude (one other : List Char → Option Instant) : Prop :=
  ∀ cs, one cs = none ∨ other cs = none

theorem Exclude.symm {one other : List Char → Option Instant} (apart : Exclude one other) :
    Exclude other one :=
  fun cs => (apart cs).symm

/-- Layouts exclude each other if no text goes on behind its date in the manner of both. -/
theorem exclude_of_date {one other : Date × List Char → Option Instant}
    (apart : ∀ d rest, one (d, rest) = none ∨ other (d, rest) = none) :
    Exclude (fun cs => layoutDate? cs >>= one) (fun cs => layoutDate? cs >>= other) := by
  intro cs
  change layoutDate? cs >>= one = none ∨ layoutDate? cs >>= other = none
  cases layoutDate? cs with
  | none => exact .inl rfl
  | some found => exact apart found.1 found.2

/-- A time of day begins with a digit. -/
theorem layoutTime?_of_noneAhead (noDigit : NoneAhead Char.isDigit (trimStart cs)) (d : Date) :
    layoutTime? d cs = none := by
  rw [layoutTime?, layoutNumber?, shortNumber?, takeDigits_of_noneAhead noDigit]
  rfl

/-- Neither case of `T` is skipped as white space. -/
theorem layoutTime?_trimStart_letter {separator : Char} (letter : separator ∈ ['T', 't'])
    (rest : List Char) (d : Date) : layoutTime? d (trimStart (separator :: rest)) = none := by
  refine layoutTime?_of_noneAhead ?_ d
  simp only [List.mem_cons, List.not_mem_nil, or_false] at letter
  rcases letter with rfl | rfl <;> exact noneAhead_cons.mpr rfl

/-- Behind the date stands a `T` in one layout, and blanks or the hour in the other. -/
theorem exclude_separated_spaced : Exclude readSeparated? readSpaced? :=
  exclude_of_date fun d rest => by
    cases separated : exactly? 'T' rest with
    | none => exact .inl (by simp only [separated]; rfl)
    | some tail =>
        rw [exactly?_eq_some_iff.mp separated]
        exact .inr (layoutTime?_trimStart_letter (by decide) tail d)

/-- Nothing may follow a date in the layout of dates. -/
theorem exclude_separated_date : Exclude readSeparated? readDate? :=
  exclude_of_date fun d rest => by
    cases rest with
    | nil => exact .inl rfl
    | cons c rest => exact .inr rfl

/-- A date that nothing follows has no time of day. -/
theorem exclude_spaced_date : Exclude readSpaced? readDate? :=
  exclude_of_date fun d rest => by
    cases rest with
    | nil => exact .inl (layoutTime?_of_noneAhead (noneAhead_nil _) d)
    | cons c rest => exact .inr rfl

/-- The layouts read the date and the time of day of the interchange format, and stop at the
offset. -/
theorem layouts_of_readChars? (read : readChars? cs = some i) :
    readSeparated? cs = none ∧ readSpaced? cs = none ∧ readDate? cs = none := by
  obtain ⟨r, separator, offset, minutes, separates, offsetWrites, ⟨fits, fraction, writes, rfl⟩,
    -⟩ := readChars?_eq_some_iff.mp read
  obtain ⟨noDigit, noPoint⟩ := offsetWrites.noneAhead
  -- the offset is what is left over, and a layout leaves nothing over
  have noTime : layoutTime? r.date (r.clockChars ++ (fraction ++ offset)) = none := by
    rw [layoutTime?_clockChars fits writes noDigit noPoint, if_neg offsetWrites.visible]
  refine ⟨?_, ?_, ?_⟩
  · rw [readSeparated?_chars fits.date, noTime, ite_self]
  · rw [readSpaced?_chars fits.date]
    simp only [separators, List.mem_cons, List.not_mem_nil, or_false] at separates
    rcases separates with rfl | rfl | rfl
    · exact layoutTime?_trimStart_letter (by decide) _ _
    · exact layoutTime?_trimStart_letter (by decide) _ _
    · rw [trimStart_blank_clockChars, noTime]
  · rw [readDate?_chars fits.date, if_neg (List.cons_ne_nil _ _)]

/-- The interchange format ends in an offset, which no other layout takes. -/
theorem exclude_chars {layout : List Char → Option Instant}
    (member : layout ∈ [readSeparated?, readSpaced?, readDate?]) : Exclude readChars? layout := by
  intro cs
  cases read : readChars? cs with
  | none => exact .inl rfl
  | some i =>
      obtain ⟨separated, spaced, date⟩ := layouts_of_readChars? read
      simp only [List.mem_cons, List.not_mem_nil, or_false] at member
      rcases member with rfl | rfl | rfl
      exacts [.inr separated, .inr spaced, .inr date]

/-- The readers of instants, in the order in which they are tried. -/
def layouts : List (List Char → Option Instant) :=
  [readChars?, readSeparated?, readSpaced?, readDate?]

/-- No text is read by two of the layouts, so the order in which they are tried does not matter. -/
theorem pairwise_layouts : layouts.Pairwise Exclude := by
  refine .cons (fun _ => exclude_chars) (.cons ?_ (.cons ?_ (List.pairwise_singleton _ _)))
  · simp [exclude_separated_spaced, exclude_separated_date]
  · simp [exclude_spaced_date]

/-- Of readers that exclude each other, the one that reads a text is found wherever it stands. -/
theorem findSome?_eq_some_iff {readers : List (List Char → Option Instant)}
    (apart : readers.Pairwise Exclude) :
    (readers.findSome? fun read? => read? cs) = some i ↔
      ∃ read? ∈ readers, read? cs = some i := by
  constructor
  · exact List.exists_of_findSome?_eq_some
  · rintro ⟨read?, member, read⟩
    induction apart with
    | nil => cases member
    | @cons first others exclude _ ih =>
        rw [List.findSome?_cons]
        rcases List.mem_cons.mp member with rfl | later
        · rw [read]
        · have missed : first cs = none :=
            (exclude _ later cs).resolve_right (by simp [read])
          rw [missed]
          exact ih later

/-- In whatever order the layouts are tried, the one that a text is in is found. -/
theorem readLenient?_eq_some_iff {s : String} {order : List (List Char → Option Instant)}
    (perm : order.Perm layouts) :
    readLenient? s = some i ↔ (order.findSome? fun layout => layout s.toList) = some i := by
  have inOrder : readLenient? s = layouts.findSome? fun layout => layout s.toList := by
    simp only [readLenient?, layouts, List.findSome?_cons, List.findSome?_nil]
    cases readChars? s.toList <;> cases readSeparated? s.toList <;>
      cases readSpaced? s.toList <;> cases readDate? s.toList <;> rfl
  have apart : order.Pairwise Exclude :=
    (perm.pairwise_iff Exclude.symm).mpr pairwise_layouts
  rw [inOrder, findSome?_eq_some_iff pairwise_layouts, findSome?_eq_some_iff apart]
  simp only [perm.mem_iff]

/-- A text that is read by any layout is read as just that instant. -/
theorem readLenient?_of_mem_layouts {s : String} (layout : List Char → Option Instant)
    (member : layout ∈ layouts) (read : layout s.toList = some i) : readLenient? s = some i := by
  rw [readLenient?_eq_some_iff (.refl layouts), findSome?_eq_some_iff pairwise_layouts]
  exact ⟨layout, member, read⟩

/-! ## Universal time -/

theorem length_dateChars (fits : d.Fits) : d.chars.length = 10 := by
  simp only [Date.chars, List.length_append, List.length_cons,
    length_padded (by decide : 0 < 4) fits.toNat_year_lt,
    length_padded (by decide : 0 < 2) fits.month_lt, length_padded (by decide : 0 < 2) fits.day_lt]

/-- Behind the ten characters of the date is what separates it from the time of day. -/
theorem Reading.IsWritten.separator_eq {separator : Char} {offset : List Char}
    (written : r.IsWritten separator offset cs) : cs[10]? = some separator := by
  obtain ⟨fits, fraction, -, rfl⟩ := written
  rw [List.getElem?_append_right (Nat.le_of_eq (length_dateChars fits.date)),
    length_dateChars fits.date]
  rfl

/-- A date and a time of day without an offset are in a layout, if anything but a small letter
separates them. -/
theorem exists_layout_of_isWritten {separator : Char}
    (separates : separator = 'T' ∨ separator = ' ')
    (written : r.IsWritten separator [] cs) (instant : r.instant? 0 = some i) :
    ∃ layout ∈ layouts, layout cs = some i := by
  obtain ⟨fits, fraction, writes, rfl⟩ := written
  have time : layoutTime? r.date (r.clockChars ++ (fraction ++ [])) = some i := by
    rw [layoutTime?_clockChars fits writes (noneAhead_nil _) (noneAhead_nil _), if_pos rfl, instant]
  rcases separates with rfl | rfl
  · refine ⟨readSeparated?, by simp [layouts], ?_⟩
    rw [readSeparated?_chars fits.date, if_pos rfl, time]
  · refine ⟨readSpaced?, by simp [layouts], ?_⟩
    rw [readSpaced?_chars fits.date, trimStart_blank_clockChars, time]

/-- What is in the interchange format with a `Z` behind it is a date and a time of day. -/
theorem read?_append_Z_iff {s : String} {separator : Char} (separates : separator ∈ separators)
    (place : s.toList[10]? = some separator) :
    read? (s ++ "Z") = some i ↔
      ∃ r, Reading.IsWritten r separator [] s.toList ∧ r.instant? 0 = some i := by
  have chars : (s ++ "Z").toList = s.toList ++ ['Z'] := String.toList_append
  rw [read?, chars, readChars?_append_Z_iff]
  constructor
  · rintro ⟨r, other, -, written, instant⟩
    obtain rfl := Option.some.inj (place.symm.trans written.separator_eq)
    exact ⟨r, written, instant⟩
  · rintro ⟨r, written, instant⟩
    exact ⟨r, separator, separates, written, instant⟩

/-- The dates and times of day that have an instant are those that exist. -/
theorem exists_read?_append_Z_iff {s : String} {separator : Char}
    (separates : separator ∈ separators) (place : s.toList[10]? = some separator) :
    (∃ i, read? (s ++ "Z") = some i) ↔
      ∃ r : Reading, r.Exists ∧ r.IsWritten separator [] s.toList := by
  constructor
  · rintro ⟨i, read⟩
    obtain ⟨r, written, instant⟩ := (read?_append_Z_iff separates place).mp read
    obtain ⟨fraction, writes, -⟩ := written.chars
    exact ⟨r, (exists_instant?_iff writes.lt 0).mp ⟨i, instant⟩, written⟩
  · rintro ⟨r, timeExists, written⟩
    obtain ⟨fraction, writes, -⟩ := written.chars
    obtain ⟨i, instant⟩ := (exists_instant?_iff writes.lt 0).mpr timeExists
    exact ⟨i, (read?_append_Z_iff separates place).mpr ⟨r, written, instant⟩⟩

/-- The `Z` makes no difference to a text that has a `T` or a blank behind its date. -/
theorem readLenient?_of_append_Z {s : String} {separator : Char}
    (separates : separator = 'T' ∨ separator = ' ') (place : s.toList[10]? = some separator)
    (read : read? (s ++ "Z") = some i) : readLenient? s = some i := by
  have separator : separator ∈ separators := by
    rcases separates with rfl | rfl <;> decide
  obtain ⟨r, written, instant⟩ := (read?_append_Z_iff separator place).mp read
  obtain ⟨layout, member, inLayout⟩ := exists_layout_of_isWritten separates written instant
  exact readLenient?_of_mem_layouts layout member inLayout

/-- A date becomes a text in the interchange format with the first moment of the day behind it. -/
theorem isWritten_midnight (fits : d.Fits) :
    (Reading.midnight d).IsWritten 'T' ['Z'] (d.chars ++ "T00:00:00Z".toList) where
  fits := ⟨fits, Nat.zero_lt_succ 99, Nat.zero_lt_succ 99, Nat.zero_lt_succ 99⟩
  chars := by
    have clock : (Reading.midnight d).clockChars = "00:00:00".toList := by
      change padded 2 0 ++ ':' :: padded 2 0 ++ ':' :: padded 2 0 = "00:00:00".toList
      decide
    exact ⟨[], .absent, by rw [clock]; rfl⟩

/-- A date stands for its first instant, whether or not that is written behind it. -/
theorem readLenient?_date (dateExists : d.isValid = true) (nonneg : 0 ≤ d.year)
    (last : d.year ≤ 9999) :
    ∃ i, of? (d.toDays * 86400) 0 = some i ∧
      readLenient? (String.ofList d.chars) = some i ∧
        readLenient? (String.ofList d.chars ++ "T00:00:00Z") = some i := by
  have fits := Date.Fits.of_isValid dateExists nonneg last
  have instant : (Reading.midnight d).instant? 0 = of? (d.toDays * 86400) 0 := by
    simp [Reading.midnight, Reading.instant?, dateExists]
  obtain ⟨i, first⟩ : ∃ i, (Reading.midnight d).instant? 0 = some i :=
    (exists_instant?_iff (Nat.zero_lt_succ _) 0).mpr
      ⟨dateExists, Nat.zero_le 23, Nat.zero_le 59, Nat.zero_le 60⟩
  refine ⟨i, instant ▸ first, ?_, ?_⟩
  · refine readLenient?_of_mem_layouts readDate? (by simp [layouts]) ?_
    rw [String.toList_ofList, ← List.append_nil d.chars, readDate?_chars fits, if_pos rfl]
    exact first
  · refine readLenient?_of_mem_layouts readChars? (by simp [layouts]) ?_
    rw [readChars?_eq_some_iff, String.toList_append, String.toList_ofList]
    exact ⟨_, 'T', ['Z'], 0, by decide, .upper, isWritten_midnight fits, first⟩

end Instant

namespace AttributeMetadata

open Instant

variable {a : AttributeMetadata}

/-- A text is coerced to an instant exactly if it is read as one. -/
theorem coerce_text_eq_ok_iff (dateTime : a.type = .dateTime) {s : String} {v : Value} :
    a.coerce (.string s) = .ok v ↔ ∃ i, readLenient? s = some i ∧ .instant i = v := by
  simp only [coerce_eq_ok_iff, coerced?, dateTime, ofText?, Option.map_eq_some_iff]

theorem coerce_text_of_readLenient? (dateTime : a.type = .dateTime) {s : String} {i : Instant}
    (read : readLenient? s = some i) : a.coerce (.string s) = .ok (.instant i) :=
  (coerce_text_eq_ok_iff dateTime).mpr ⟨i, read, rfl⟩

/-- A text without an offset is an instant of universal time. Where one that ends in `Z` is in the
interchange format, it is coerced to the same instant without its `Z`; these are the dates and times
of day that exist, written out with `T` or one blank between them and with any fraction. A date
alone is coerced to its first instant, as with that time of day behind it. No two layouts have a
text in common, so the order in which they are tried makes no difference. -/
theorem coerce_asUniversal (dateTime : a.type = .dateTime) :
    (∀ (s : String) (separator : Char), separator = 'T' ∨ separator = ' ' →
      s.toList[10]? = some separator →
        ((∃ i, read? (s ++ "Z") = some i) ↔
          ∃ r : Reading, r.Exists ∧ r.IsWritten separator [] s.toList) ∧
        ∀ i, read? (s ++ "Z") = some i →
          a.coerce (.string s) = .ok (.instant i) ∧
            a.coerce (.string (s ++ "Z")) = .ok (.instant i)) ∧
    (∀ d : Date, d.isValid = true → 0 ≤ d.year → d.year ≤ 9999 →
      ∃ i, of? (d.toDays * 86400) 0 = some i ∧
        a.coerce (.string (String.ofList d.chars)) = .ok (.instant i) ∧
          a.coerce (.string (String.ofList d.chars ++ "T00:00:00Z")) = .ok (.instant i)) ∧
    layouts.Pairwise Exclude ∧
    ∀ order : List (List Char → Option Instant), order.Perm layouts → ∀ s v,
      a.coerce (.string s) = .ok v ↔
        ∃ i, (order.findSome? fun layout => layout s.toList) = some i ∧ .instant i = v := by
  refine ⟨fun s separator separates place => ⟨?_, fun i read => ⟨?_, ?_⟩⟩,
    fun d dateExists nonneg last => ?_, pairwise_layouts, fun order perm s v => ?_⟩
  · refine exists_read?_append_Z_iff ?_ place
    rcases separates with rfl | rfl <;> decide
  · exact coerce_text_of_readLenient? dateTime (readLenient?_of_append_Z separates place read)
  · refine coerce_text_of_readLenient? dateTime ?_
    exact readLenient?_of_mem_layouts readChars? (by simp [layouts]) read
  · obtain ⟨i, first, date, written⟩ := readLenient?_date dateExists nonneg last
    exact ⟨i, first, coerce_text_of_readLenient? dateTime date,
      coerce_text_of_readLenient? dateTime written⟩
  · simp only [coerce_text_eq_ok_iff dateTime, readLenient?_eq_some_iff perm]

/-- A leap second with more digits than are kept, and a leap day. -/
theorem coerce_asUniversal_leapSecond :
    let a := ofPayment .dateTime
    let time := "2016-12-31 23:59:60.1234567899"
    (∃ i, read? (time ++ "Z") = some i ∧ i.nanos = 1_123_456_789 ∧
      a.coerce (.string time) = .ok (.instant i) ∧
        a.coerce (.string (time ++ "Z")) = .ok (.instant i)) ∧
    (∃ i, of? 1709164800 0 = some i ∧ a.coerce (.string "2024-02-29") = .ok (.instant i) ∧
      a.coerce (.string ("2024-02-29" ++ "T00:00:00Z")) = .ok (.instant i)) ∧
    ∀ v, a.coerce (.string time) = .ok v ↔
      ∃ i, ([readDate?, readSpaced?, readSeparated?, readChars?].findSome?
        fun layout => layout time.toList) = some i ∧ .instant i = v := by
  intro a time
  obtain ⟨texts, dates, -, orders⟩ := coerce_asUniversal (a := a) rfl
  refine ⟨?_, ?_, ?_⟩
  · have leapSecond : (read? (time ++ "Z")).map nanos = some 1_123_456_789 := by decide
    obtain ⟨i, read, nanos⟩ := Option.map_eq_some_iff.mp leapSecond
    exact ⟨i, read, nanos, (texts time ' ' (.inr rfl) (by decide)).2 i read⟩
  · have chars : String.ofList (Date.chars ⟨2024, 2, 29⟩) = "2024-02-29" := by decide
    have leapDay := dates ⟨2024, 2, 29⟩ (by decide) (by decide) (by decide)
    rwa [chars] at leapDay
  · exact orders _ (List.reverse_perm layouts) time

end AttributeMetadata

end EntityGateway
