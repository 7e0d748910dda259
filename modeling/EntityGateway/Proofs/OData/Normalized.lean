import EntityGateway.Proofs.OData.Compiled
import EntityGateway.Proofs.Time.ReadBack
import EntityGateway.Proofs.Uuid

/-!
# Identifiers and instants in normal form

A text that is compared with identifiers or with instants, and that reads as one, is replaced in the
filter by the text of what it reads as: `normalized_of_comparison`. The written text is in normal
form, denotes what the caller's text does, and is left as it is when it is compared itself. The
exception are instants before the year 0 and after the year 9999, to which an offset from universal
time can lead. Their years are written with a sign, which no text of an instant has.
-/

namespace EntityGateway

open Text

/-! ## Normal forms -/

/-- A hexadecimal digit that is no upper-case letter. -/
def Uuid.isLowerDigit (c : Char) : Bool :=
  c.isDigit || ('a' ≤ c && c ≤ 'f')

/-- The characters are lower-case hexadecimal digits with hyphens between them, in groups of eight,
four, four, four and twelve. -/
def Uuid.IsHyphenated (cs : List Char) : Prop :=
  ∃ a b c d e : List Char, cs = a ++ '-' :: b ++ '-' :: c ++ '-' :: d ++ '-' :: e ∧
    a.length = 8 ∧ b.length = 4 ∧ c.length = 4 ∧ d.length = 4 ∧ e.length = 12 ∧
    ∀ x ∈ a ++ b ++ c ++ d ++ e, isLowerDigit x = true

theorem Uuid.isLowerDigit_of_mem_hexDigits {n count : Nat} :
    ∀ c ∈ hexDigits n count, isLowerDigit c = true := by
  induction count generalizing n with
  | zero => simp [hexDigits]
  | succ count ih =>
      intro c member
      rcases List.mem_append.mp member with member | member
      · exact ih c member
      · have each : ∀ d < 16, isLowerDigit (digitChar d) = true := by decide
        rw [List.mem_singleton.mp member]
        exact each _ (Nat.mod_lt n (by decide))

/-- Identifiers are written in groups of lower-case digits. -/
theorem Uuid.isHyphenated_text (u : Uuid) : IsHyphenated u.text.toList := by
  have length := length_hexDigits u.bits.toNat 32
  have lower : ∀ c ∈ hexDigits u.bits.toNat 32, isLowerDigit c = true :=
    isLowerDigit_of_mem_hexDigits
  rw [text, String.toList_ofList, chars]
  generalize hexDigits u.bits.toNat 32 = digits at length lower
  refine ⟨_, _, _, _, _, rfl, by simp [length], by simp [length], by simp [length],
    by simp [length], by simp [length], fun c member => lower c ?_⟩
  simp only [List.append_assoc, take_drop_append_drop digits 16 4,
    take_drop_append_drop digits 12 4, take_drop_append_drop digits 8 4,
    List.take_append_drop] at member
  exact member

/-- The characters are digits, and there are as many of them. -/
def Instant.AreDigits (width : Nat) (cs : List Char) : Prop :=
  cs.length = width ∧ ∀ c ∈ cs, c.isDigit = true

/-- The characters are a date and a time of day in the interchange format with `Z` for universal
time, and a fraction of a second if there is one. -/
def Instant.IsUniversal (cs : List Char) : Prop :=
  ∃ year month day hour minute second fraction : List Char,
    cs = year ++ '-' :: month ++ '-' :: day ++
      'T' :: (hour ++ ':' :: minute ++ ':' :: second) ++ fraction ++ ['Z'] ∧
    AreDigits 4 year ∧ AreDigits 2 month ∧ AreDigits 2 day ∧
    AreDigits 2 hour ∧ AreDigits 2 minute ∧ AreDigits 2 second ∧
    (fraction = [] ∨ ∃ digits width, fraction = '.' :: digits ∧ 0 < width ∧ AreDigits width digits)

theorem Instant.areDigits_padded {width n : Nat} (positive : 0 < width)
    (bound : n < Nat.pow 10 width) : AreDigits width (padded width n) :=
  ⟨length_padded positive bound, isDigit_of_mem_padded⟩

theorem Instant.fractionChars_cases {nanos : Nat} (bound : nanos < 1_000_000_000) :
    fractionChars nanos = [] ∨ ∃ digits width,
      fractionChars nanos = '.' :: digits ∧ 0 < width ∧ AreDigits width digits := by
  unfold fractionChars
  split
  · exact .inl rfl
  · split
    · have small : nanos / 1_000_000 < 1_000 := by omega
      exact .inr ⟨_, 3, rfl, by decide, areDigits_padded (by decide) small⟩
    · split
      · have small : nanos / 1_000 < 1_000_000 := by omega
        exact .inr ⟨_, 6, rfl, by decide, areDigits_padded (by decide) small⟩
      · exact .inr ⟨_, 9, rfl, by decide, areDigits_padded (by decide) bound⟩

/-- Instants whose year has four digits are written in the interchange format. -/
theorem Instant.isUniversal_text {i : Instant} (fourDigits : i.HasFourDigitYear) :
    IsUniversal i.text.toList := by
  obtain ⟨monthFits, dayFits, hourFits, minuteFits, secondFits⟩ := i.parts_lt
  have fractionFits : i.fraction < 1_000_000_000 := Nat.mod_lt _ (by decide)
  have two : 0 < 2 := by decide
  rw [text, String.toList_ofList, chars, yearChars, if_pos (show _ ∧ _ from fourDigits), clockChars]
  exact ⟨_, _, _, _, _, _, _, rfl, areDigits_padded (by decide) fourDigits.year_lt,
    areDigits_padded two monthFits, areDigits_padded two dayFits, areDigits_padded two hourFits,
    areDigits_padded two minuteFits, areDigits_padded two secondFits,
    fractionChars_cases fractionFits⟩

/-! ## What is written for a text -/

/-- What a text denotes, if it is compared with an attribute whose values have a normal form. -/
inductive Denoted where
  | identifier (u : Uuid)
  | instant (i : Instant)
  deriving DecidableEq

namespace Denoted

/-- The text that is written. -/
def text : Denoted → String
  | identifier u => u.text
  | instant i => i.text

/-- The value can be written in normal form. -/
def HasNormalForm : Denoted → Prop
  | identifier _ => True
  | instant i => i.HasFourDigitYear

/-- The characters are in the normal form of the value's kind. -/
def IsNormal : Denoted → List Char → Prop
  | identifier _, cs => Uuid.IsHyphenated cs
  | instant _, cs => Instant.IsUniversal cs

/-- What a text without the blanks around it denotes. -/
def ofText? (type : AttributeType) (s : String) : Option Denoted :=
  if type.isIdentifier then (Uuid.read? (trim s)).map .identifier
  else if type = .dateTime then (Instant.read? (trim s)).map .instant
  else none

theorem isBare_text (v : Denoted) : IsBare v.text.toList := by
  cases v with
  | identifier u => exact u.isBare_text
  | instant i => exact i.isBare_text

/-- A value that has a normal form is written in it. -/
theorem isNormal_text {v : Denoted} (normal : v.HasNormalForm) : v.IsNormal v.text.toList := by
  cases v with
  | identifier u => exact u.isHyphenated_text
  | instant i => exact Instant.isUniversal_text normal

/-- What the text of a value is read as, for a type of the value's kind. -/
def reread : Denoted → Option Denoted
  | identifier u => (Uuid.read? u.text).map .identifier
  | instant i => (Instant.read? i.text).map .instant

/-- A value that has a normal form is read from it. -/
theorem reread_of_normal {v : Denoted} (normal : v.HasNormalForm) : v.reread = some v := by
  cases v with
  | identifier u => rw [reread, u.read?_text, Option.map_some]
  | instant i => rw [reread, Instant.read?_text normal, Option.map_some]

/-- An instant whose year has a sign is written as a text that is not read. -/
theorem reread_eq_none {v : Denoted} (signed : ¬ v.HasNormalForm) : v.reread = none := by
  cases v with
  | identifier u => exact absurd trivial signed
  | instant i => rw [reread, Instant.read?_text_eq_none signed, Option.map_none]

/-- A type has texts of one kind only, so what a text denotes decides how its own text is read. -/
theorem ofText?_text {type : AttributeType} {s : String} {v : Denoted}
    (denotes : ofText? type s = some v) : ofText? type v.text = v.reread := by
  unfold ofText? at denotes ⊢
  rw [trim_of_isBare v.isBare_text]
  split at denotes
  · rename_i identifier
    obtain ⟨u, -, rfl⟩ := Option.map_eq_some_iff.mp denotes
    exact if_pos identifier
  · rename_i noIdentifier
    split at denotes
    · rename_i dateTime
      obtain ⟨i, -, rfl⟩ := Option.map_eq_some_iff.mp denotes
      rw [if_neg noIdentifier, if_pos dateTime]
      rfl
    · cases denotes

end Denoted

namespace OData.Literal

theorem ofTypedText?_eq_map_ofText? (type : AttributeType) (s : String) :
    ofTypedText? type s = (Denoted.ofText? type s).map fun v => .raw v.text := by
  unfold ofTypedText? Denoted.ofText?
  split
  · rw [Option.map_map]
    rfl
  · split
    · rw [Option.map_map]
      rfl
    · rfl

/-- A text that is compared with an attribute whose values have a normal form is never rejected. -/
theorem ofComparison_string {a : AttributeMetadata}
    (typed : a.type.isIdentifier = true ∨ a.type = .dateTime) (s : String) :
    ofComparison a (.string s) =
      .ok (((Denoted.ofText? a.type s).map fun v => .raw v.text).getD (.string s)) := by
  have kind : a.type.literalKind = .text := by
    obtain identifier | dateTime := typed
    · cases type : a.type <;> first | rfl | (rw [type] at identifier; cases identifier)
    · rw [dateTime]
      rfl
  have compared :
      ofTyped? a.type (.string s) = some ((ofTypedText? a.type s).getD (.string s)) := by
    unfold ofTyped?
    rw [kind]
    rfl
  have present : ¬ (Value.string s).isNull = true := Bool.false_ne_true
  rw [ofComparison, if_neg present, compared, ofTypedText?_eq_map_ofText?]
  rfl

/-- The text `t` is written for the text `s` of a caller, which denotes a value. -/
structure Normalized (a : AttributeMetadata) (s t : String) (v : Denoted) : Prop where
  denoted : Denoted.ofText? a.type s = some v
  text : t = v.text
  /-- The written text is in normal form and denotes the same value. -/
  inForm (normal : v.HasNormalForm) : v.IsNormal t.toList ∧ Denoted.ofText? a.type t = some v
  /-- The written text is written as it is. -/
  again (normal : v.HasNormalForm) : ofComparison a (.string t) = .ok (.raw t)
  /-- Without a normal form the written text denotes nothing and is compared as a string. -/
  lost (signed : ¬ v.HasNormalForm) :
    Denoted.ofText? a.type t = none ∧ ofComparison a (.string t) = .ok (.string t)

/-- What is written for a text of a caller denotes what the text does. It is in normal form and is
written as it is when it is compared itself, unless it is an instant whose year has not four digits:
then it denotes nothing and is compared as a string. -/
theorem normalized_of_comparison {a : AttributeMetadata}
    (typed : a.type.isIdentifier = true ∨ a.type = .dateTime) {s t : String}
    (made : ofComparison a (.string s) = .ok (.raw t)) : ∃ v, Normalized a s t v := by
  rw [ofComparison_string typed] at made
  cases denotes : Denoted.ofText? a.type s with
  | none =>
      rw [denotes] at made
      cases made
  | some v =>
      rw [denotes] at made
      cases made
      have reread := v.ofText?_text denotes
      have compared := ofComparison_string typed v.text
      rw [reread] at compared
      refine ⟨v, denotes, rfl, fun normal => ?_, fun normal => ?_, fun signed => ?_⟩
      · exact ⟨v.isNormal_text normal, reread.trans (v.reread_of_normal normal)⟩
      · rw [v.reread_of_normal normal] at compared
        exact compared
      · rw [v.reread_eq_none signed] at reread compared
        exact ⟨reread, compared⟩

end OData.Literal

/-- An attribute with instants. -/
def AttributeMetadata.moment : AttributeMetadata :=
  ⟨"moment", "moment", .dateTime⟩

/-- The middle of the leap second at the end of 2016. -/
def Instant.leapSecond : Instant :=
  (of? 1483228799 1_500_000_000).get rfl

/-- A leap second with blanks around it, told in another offset. -/
theorem OData.Literal.normalized_of_comparison_leapSecond :
    let s := "\t2016-12-31T18:59:60.5-05:00 "
    let t := "2016-12-31T23:59:60.500Z"
    AttributeMetadata.moment.type = .dateTime ∧ ofComparison .moment (.string s) = .ok (.raw t) ∧
      Denoted.ofText? .dateTime t = some (.instant .leapSecond) ∧
      ofComparison .moment (.string t) = .ok (.raw t) := by
  intro s t
  have made : ofComparison .moment (.string s) = .ok (.raw t) := by decide +kernel
  obtain ⟨v, normalized⟩ := normalized_of_comparison (a := .moment) (.inr rfl) made
  have denotes : Denoted.ofText? .dateTime s = some (.instant .leapSecond) := by decide +kernel
  obtain rfl : v = .instant .leapSecond :=
    Option.some.inj (normalized.denoted.symm.trans denotes)
  have fourDigits : Instant.leapSecond.HasFourDigitYear := by decide
  exact ⟨rfl, made, (normalized.inForm fourDigits).2, normalized.again fourDigits⟩

/-- An offset leads past the year 9999, and what is written is no text of an instant. -/
theorem OData.Literal.signed_year_is_lost :
    ¬ ∀ (a : AttributeMetadata) (s t : String), a.type = .dateTime →
      ofComparison a (.string s) = .ok (.raw t) → ofComparison a (.string t) = .ok (.raw t) := by
  intro law
  have made : ofComparison .moment (.string "9999-12-31T23:59:59-00:01") =
      .ok (.raw "+10000-01-01T00:00:59Z") := by decide +kernel
  have again := law .moment _ _ rfl made
  have lost : ofComparison .moment (.string "+10000-01-01T00:00:59Z") =
      .ok (.string "+10000-01-01T00:00:59Z") := by decide +kernel
  rw [lost] at again
  cases again

end EntityGateway
