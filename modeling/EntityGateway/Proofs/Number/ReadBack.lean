import EntityGateway.Proofs.Json.Words
import EntityGateway.Proofs.Time.ReadBack
import EntityGateway.Value

/-!
# Reading written decimals

The text of a decimal is in plain form, and is read as the decimal with all its fractional digits
(`read?_text`): a mantissa that was in range once never runs out of room while its digits are read.
Only the sign of a zero is lost, which plain texts have no room for; the number is the same.
-/

namespace EntityGateway

namespace Decimal

variable {negative : Bool} {p : Partial}

/-- The number that a decimal stands for. -/
def number (d : Decimal) : Rat :=
  mkRat (if d.negative then -(d.mantissa : Int) else d.mantissa) (Nat.pow 10 d.scale)

/-- The decimal, but for the sign of a zero. -/
def unsignedZero (d : Decimal) : Decimal :=
  { d with negative := d.negative && d.mantissa ≠ 0 }

@[simp] theorem scale_unsignedZero (d : Decimal) : d.unsignedZero.scale = d.scale :=
  rfl

@[simp] theorem number_unsignedZero (d : Decimal) : d.unsignedZero.number = d.number := by
  by_cases zero : d.mantissa = 0 <;> simp [number, unsignedZero, zero]

theorem ofPlain?_parts (d : Decimal) :
    ofPlain? d.negative d.mantissa d.scale = some d.unsignedZero :=
  dif_pos ⟨d.mantissa_lt, d.scale_le⟩

/-! ## Digits -/

theorem digit?_of_isDigit {c : Char} (digit : c.isDigit = true) :
    digit? c = some (c.toNat - '0'.toNat) := by
  rw [digit?, if_pos (Instant.isDigit_iff.mp digit)]
  rfl

/-- What has been read after some more digits. -/
def Partial.withDigits (p : Partial) (digits : List Char) : Partial where
  mantissa := Nat.ofDigitChars 10 digits p.mantissa
  scale := if p.pointSeen then p.scale + digits.length else p.scale
  pointSeen := p.pointSeen
  digitSeen := p.digitSeen || !digits.isEmpty

theorem Partial.withDigits_nil (p : Partial) : p.withDigits [] = p := by
  cases p
  simp [withDigits]

theorem Partial.withDigits_cons (p : Partial) (c : Char) (digits : List Char) :
    p.withDigits (c :: digits) = (p.withDigits [c]).withDigits digits := by
  cases pointSeen : p.pointSeen
  · simp [withDigits, Nat.ofDigitChars_cons, pointSeen]
  · simp [withDigits, Nat.ofDigitChars_cons, pointSeen, Nat.add_assoc, Nat.add_comm 1]

/-- What has been read of a text that begins with some digits. -/
theorem Partial.withDigits_of_ne_nil {digits : List Char} (visible : digits ≠ []) :
    withDigits {} digits = { mantissa := Nat.ofDigitChars 10 digits 0, digitSeen := true } := by
  simp [withDigits, visible]

theorem Partial.mantissa_le_withDigits (p : Partial) (digits : List Char) :
    p.mantissa ≤ (p.withDigits digits).mantissa :=
  Scanner.le_ofDigitChars digits p.mantissa

theorem Partial.scale_le_withDigits (p : Partial) (digits : List Char) :
    p.scale ≤ (p.withDigits digits).scale := by
  simp only [withDigits]
  split <;> omega

/-- A digit is taken as it is where there is room for it. -/
theorem readDigits?_digit {c : Char} (digit : c.isDigit = true)
    (fits : (p.withDigits [c]).mantissa < mantissaBound)
    (inScale : (p.withDigits [c]).scale ≤ maxScale) (rest : List Char) :
    readDigits? negative p (c :: rest) = readDigits? negative (p.withDigits [c]) rest := by
  have mantissa : (p.withDigits [c]).mantissa = p.mantissa * 10 + (c.toNat - '0'.toNat) := by
    simp [Partial.withDigits, Nat.ofDigitChars_cons, Nat.mul_comm]
  rw [mantissa] at fits
  have room : ¬ mantissaBound ≤ p.mantissa * 10 + (c.toNat - '0'.toNat) := Nat.not_le.mpr fits
  rw [readDigits?, digit?_of_isDigit digit]
  cases pointSeen : p.pointSeen with
  | false =>
      simp only [Bool.false_eq_true, if_false, if_neg room, Partial.withDigits, pointSeen,
        Nat.ofDigitChars_cons, Nat.ofDigitChars_nil, Nat.mul_comm, List.isEmpty_cons,
        Bool.not_false, Bool.or_true]
  | true =>
      have next : p.scale + 1 ≤ maxScale := by
        simpa [Partial.withDigits, pointSeen] using inScale
      have noRounding : ¬(p.scale = maxScale ∨
          mantissaBound ≤ p.mantissa * 10 + (c.toNat - '0'.toNat)) :=
        not_or.mpr ⟨Nat.ne_of_lt next, room⟩
      simp only [if_true, if_neg noRounding, Partial.withDigits, pointSeen, Nat.ofDigitChars_cons,
        Nat.ofDigitChars_nil, Nat.mul_comm, List.isEmpty_cons, Bool.not_false, Bool.or_true,
        List.length_singleton]

/-- Digits are taken as they are where there is room for all of them. -/
theorem readDigits?_append {digits : List Char} (each : ∀ c ∈ digits, c.isDigit = true)
    (fits : (p.withDigits digits).mantissa < mantissaBound)
    (inScale : (p.withDigits digits).scale ≤ maxScale) (rest : List Char) :
    readDigits? negative p (digits ++ rest) =
      readDigits? negative (p.withDigits digits) rest := by
  induction digits generalizing p with
  | nil => rw [Partial.withDigits_nil, List.nil_append]
  | cons c digits ih =>
      obtain ⟨first, others⟩ := List.forall_mem_cons.mp each
      rw [Partial.withDigits_cons] at fits inScale ⊢
      -- the digits behind a digit only add to the mantissa and to the scale
      have fitsFirst := Nat.lt_of_le_of_lt ((p.withDigits [c]).mantissa_le_withDigits digits) fits
      have inScaleFirst := Nat.le_trans ((p.withDigits [c]).scale_le_withDigits digits) inScale
      rw [List.cons_append, readDigits?_digit first fitsFirst inScaleFirst,
        ih others fits inScale]

theorem readDigits?_point (before : p.pointSeen = false) (rest : List Char) :
    readDigits? negative p ('.' :: rest) =
      readDigits? negative { p with pointSeen := true } rest := by
  have noDigit : digit? '.' = none := by decide
  rw [readDigits?, noDigit]
  exact if_pos ⟨rfl, before⟩

/-! ## Texts -/

/-- The digits of a mantissa stand in front of the point and behind it. -/
theorem exists_unsignedChars_eq (mantissa : Nat) {scale : Nat} (visible : 0 < scale) :
    ∃ whole fraction, unsignedChars mantissa scale = whole ++ '.' :: fraction ∧
      whole ++ fraction = Instant.padded (scale + 1) mantissa ∧ whole ≠ [] ∧
      fraction.length = scale := by
  let padded := Instant.padded (scale + 1) mantissa
  have length : scale + 1 ≤ padded.length := by
    simp only [padded, Instant.padded, List.length_append, List.length_replicate]
    omega
  refine ⟨padded.take (padded.length - scale), padded.drop (padded.length - scale),
    if_neg (Nat.ne_of_gt visible), List.take_append_drop .., ?_, ?_⟩
  · refine List.ne_nil_of_length_pos ?_
    rw [List.length_take]
    omega
  · rw [List.length_drop]
    omega

/-- The digits of a decimal are read as its mantissa and its scale. -/
theorem readDigits?_unsignedChars {mantissa scale : Nat} (fits : mantissa < mantissaBound)
    (inScale : scale ≤ maxScale) :
    readDigits? negative {} (unsignedChars mantissa scale) =
      ofPlain? negative mantissa scale := by
  have each (c : Char) : c ∈ Instant.padded (scale + 1) mantissa → c.isDigit = true :=
    Instant.isDigit_of_mem_padded c
  have value := Instant.ofDigitChars_padded (scale + 1) mantissa
  rcases Nat.eq_zero_or_pos scale with rfl | visible
  · have read := Partial.withDigits_of_ne_nil (Instant.padded_ne_nil 1 mantissa)
    rw [value] at read
    have written : unsignedChars mantissa 0 = Instant.padded 1 mantissa ++ [] :=
      (List.append_nil _).symm
    rw [written, readDigits?_append each (read ▸ fits) (read ▸ inScale), read]
    rfl
  · obtain ⟨whole, fraction, written, digits, some, length⟩ :=
      exists_unsignedChars_eq mantissa visible
    rw [← digits] at each value
    obtain ⟨eachWhole, eachFraction⟩ := List.forall_mem_append.mp each
    rw [Nat.ofDigitChars_append] at value
    have readWhole := Partial.withDigits_of_ne_nil some
    have readFraction : Partial.withDigits
        { mantissa := Nat.ofDigitChars 10 whole 0, pointSeen := true, digitSeen := true } fraction =
          { mantissa, scale, pointSeen := true, digitSeen := true } := by
      simp [Partial.withDigits, value, length]
    have fitsWhole : Nat.ofDigitChars 10 whole 0 < mantissaBound :=
      Nat.lt_of_le_of_lt (value ▸ Scanner.le_ofDigitChars fraction _) fits
    rw [written, readDigits?_append eachWhole (readWhole ▸ fitsWhole) (Nat.zero_le _), readWhole,
      readDigits?_point rfl, ← List.append_nil fraction,
      readDigits?_append eachFraction (readFraction ▸ fits) (readFraction ▸ inScale), readFraction]
    rfl

/-- The text of a number without a sign is not taken for one with a sign. -/
theorem readPlain?_of_isDigit {c : Char} (digit : c.isDigit = true) (rest : List Char) :
    readPlain? (c :: rest) = readDigits? false {} (c :: rest) := by
  unfold readPlain?
  split
  · rename_i minus
    cases minus
    exact absurd digit (by decide)
  · rename_i plus
    cases plus
    exact absurd digit (by decide)
  · rfl

/-- The text of a number without a sign begins with a digit. -/
theorem exists_unsignedChars_eq_cons (mantissa scale : Nat) :
    ∃ c rest, unsignedChars mantissa scale = c :: rest ∧ c.isDigit = true := by
  have each (c : Char) : c ∈ Instant.padded (scale + 1) mantissa → c.isDigit = true :=
    Instant.isDigit_of_mem_padded c
  rcases Nat.eq_zero_or_pos scale with rfl | visible
  · obtain ⟨c, digits, written⟩ := List.exists_cons_of_ne_nil (Instant.padded_ne_nil 1 mantissa)
    exact ⟨c, digits, written, each c (written ▸ List.mem_cons_self)⟩
  · obtain ⟨whole, fraction, written, digits, some, -⟩ :=
      exists_unsignedChars_eq mantissa visible
    obtain ⟨c, whole, rfl⟩ := List.exists_cons_of_ne_nil some
    exact ⟨c, whole ++ '.' :: fraction, written, each c (digits ▸ List.mem_cons_self)⟩

theorem readPlain?_chars (d : Decimal) : readPlain? d.chars = some d.unsignedZero := by
  have read (negative : Bool) : readDigits? negative {} (unsignedChars d.mantissa d.scale) = _ :=
    readDigits?_unsignedChars d.mantissa_lt d.scale_le
  have parts := ofPlain?_parts d
  rw [chars]
  cases negative : d.negative with
  | true => exact (read true).trans (negative ▸ parts)
  | false =>
      obtain ⟨c, rest, written, digit⟩ := exists_unsignedChars_eq_cons d.mantissa d.scale
      rw [if_neg Bool.false_ne_true, written, readPlain?_of_isDigit digit, ← written]
      exact (read false).trans (negative ▸ parts)

/-- The text of a decimal is read as the decimal, but for the sign of a zero. -/
theorem read?_text (d : Decimal) : read? d.text = some d.unsignedZero := by
  rw [read?, text, String.toList_ofList, readPlain?_chars]
  rfl

/-! ## Integers -/

theorem text_ofUInt64 (n : UInt64) :
    (ofUInt64 n).text = String.ofList (Nat.toDigits 10 n.toNat) := by
  have digits : 0 < (Nat.toDigits 10 n.toNat).length := Nat.length_toDigits_pos
  have noZeros : 0 + 1 - (Nat.toDigits 10 n.toNat).length = 0 := by omega
  simp only [text, chars, ofUInt64, unsignedChars, noZeros, Bool.false_eq_true, if_false, if_true,
    List.replicate_zero, List.nil_append]

end Decimal

/-- An integer of JSON is carried as a decimal where sixty-three bits are too few for it. -/
theorem Value.ofInteger_cases {n : Int} (least : -(Nat.pow 2 63 : Int) ≤ n)
    (bound : n < Nat.pow 2 64) :
    (∃ i : Int64, n = i.toInt ∧ ofInteger n = .integer i) ∨
      ∃ u : UInt64, n = u.toNat ∧ Nat.pow 2 63 ≤ u.toNat ∧
        ofInteger n = .decimal (.ofUInt64 u) := by
  by_cases small : n < Nat.pow 2 63
  · have same : (Int64.ofInt n).toInt = n := Int64.toInt_ofInt_of_le least small
    exact .inl ⟨_, same.symm, if_pos small⟩
  · have inRange : n.toNat < Nat.pow 2 64 := by omega
    have same : (UInt64.ofNat n.toNat).toNat = n.toNat := UInt64.toNat_ofNat_of_lt' inRange
    exact .inr ⟨_, by omega, by omega, if_neg small⟩

end EntityGateway
