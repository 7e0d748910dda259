import EntityGateway.Proofs.Text.Utf8
import EntityGateway.Text.Form
import Mathlib.Tactic.IntervalCases

/-!
# Undoing the form coding

`Decodes coded plain` says that decoding passes from some coded characters to the bytes they stand
for, whatever follows them. A byte that was written, and a character other than a plus sign and a
percent sign, decodes to itself, and what decodes may be joined; so the values of an encoded list of
pairs are read as they were before, and its names and separators stay where they are:
`formDecode_formPairs`.
-/

namespace EntityGateway.Text

/-- The bytes of some characters after plus signs have become blanks. -/
def withoutPlus (cs : List Char) : List UInt8 :=
  utf8 (cs.map fun c => if c = '+' then ' ' else c)

@[simp] theorem withoutPlus_append (cs ds : List Char) :
    withoutPlus (cs ++ ds) = withoutPlus cs ++ withoutPlus ds := by
  rw [withoutPlus, List.map_append, utf8_append]
  rfl

/-- The coded characters are read as these bytes. -/
def Decodes (coded : List Char) (plain : List UInt8) : Prop :=
  ∀ rest, percentDecode (withoutPlus coded ++ rest) = plain ++ percentDecode rest

/-- A text that decodes to the bytes of another is decoded as the other. -/
theorem formDecode_of_decodes {s t : String} (decodes : Decodes s.toList (bytes t)) :
    formDecode s = t := by
  have read : percentDecode (withoutPlus s.toList) = bytes t := by
    simpa [percentDecode] using decodes []
  rw [formDecode, plusToBlank, bytes_eq_utf8, String.toList_map]
  change ofBytesLossy (percentDecode (withoutPlus s.toList)) = t
  rw [read, ofBytesLossy_bytes]

namespace Decodes

theorem nil : Decodes [] [] := fun _ => rfl

/-- What is decoded part by part is decoded as a whole: no escape reaches over the end of a part. -/
theorem append {coded coded' : List Char} {plain plain' : List UInt8}
    (first : Decodes coded plain) (second : Decodes coded' plain') :
    Decodes (coded ++ coded') (plain ++ plain') := by
  intro rest
  rw [withoutPlus_append, List.append_assoc, first, second, List.append_assoc]

end Decodes

/-! ## What stands for itself -/

theorem percentDecode_of_ne {b : UInt8} (plain : b ≠ 0x25) (rest : List UInt8) :
    percentDecode (b :: rest) = b :: percentDecode rest := by
  rw [percentDecode.eq_def]
  exact if_neg plain

/-- Bytes that are no percent signs stand for themselves. -/
theorem percentDecode_append {plain : List UInt8} (noPercent : ∀ b ∈ plain, b ≠ 0x25)
    (rest : List UInt8) : percentDecode (plain ++ rest) = plain ++ percentDecode rest := by
  induction plain with
  | nil => rfl
  | cons b plain ih =>
      rw [List.cons_append, percentDecode_of_ne (noPercent b List.mem_cons_self),
        ih fun b' among => noPercent b' (List.mem_cons_of_mem _ among), List.cons_append]

theorem utf8EncodeChar_of_ascii {c : Char} (ascii : c.toNat ≤ 0x7F) :
    String.utf8EncodeChar c = [UInt8.ofNat c.toNat] := by
  simp only [String.utf8EncodeChar, Char.toNat_val]
  exact if_pos ascii

/-- A byte of a character is the character itself, or not in the range of the letters. -/
theorem ne_percent_of_mem_utf8EncodeChar {c : Char} (other : c ≠ '%') :
    ∀ b ∈ String.utf8EncodeChar c, b ≠ 0x25 := by
  have differs {n : Nat} (small : n < 0x100) (apart : n ≠ 0x25) : UInt8.ofNat n ≠ 0x25 := by
    intro same
    exact apart ((toNat_ofNat_byte small).symm.trans (congrArg UInt8.toNat same))
  by_cases ascii : c.toNat ≤ 0x7F
  · have code : c.toNat ≠ 0x25 := fun same => other (Char.toNat_inj.mp same)
    rw [utf8EncodeChar_of_ascii ascii]
    rintro b (_ | ⟨_, ⟨⟩⟩)
    exact differs (by omega) code
  · intro b among
    simp only [String.utf8EncodeChar, Char.toNat_val, if_neg ascii] at among
    split_ifs at among
    all_goals
      simp only [List.mem_cons, List.not_mem_nil, or_false] at among
      rcases among with rfl | rfl | rfl | rfl
    all_goals exact differs (by omega) (by omega)

/-- A character that decoding does not treat specially. -/
theorem decodes_character {c : Char} (notPlus : c ≠ '+') (notPercent : c ≠ '%') :
    Decodes [c] (String.utf8EncodeChar c) := by
  intro rest
  have same : withoutPlus [c] = String.utf8EncodeChar c := by
    simp [withoutPlus, utf8, notPlus]
  rw [same, percentDecode_append (ne_percent_of_mem_utf8EncodeChar notPercent)]

/-- Characters other than the plus and the percent sign stand for themselves. -/
theorem decodes_characters {cs : List Char} (noPlus : '+' ∉ cs) (noPercent : '%' ∉ cs) :
    Decodes cs (utf8 cs) := by
  induction cs with
  | nil => exact .nil
  | cons c cs ih =>
      simp only [List.mem_cons, not_or] at noPlus noPercent
      rw [utf8_cons]
      exact (decodes_character (Ne.symm noPlus.1) (Ne.symm noPercent.1)).append
        (ih noPlus.2 noPercent.2)

/-! ## Encoded values -/

/-- A hexadecimal digit is one byte, is no plus sign, and has the value it was made of. -/
theorem hexDigit_read {n : Nat} (digit : n < 16) :
    ∃ b, withoutPlus [hexDigit n] = [b] ∧ hexByteValue? b = some n := by
  interval_cases n <;> exact ⟨_, rfl, rfl⟩

/-- A byte that is written as it is stands for a character that decoding leaves alone. -/
theorem toNat_of_isFormPlain {b : UInt8} (plain : isFormPlain b = true) :
    b.toNat ≤ 0x7F ∧ b.toNat ≠ 0x25 ∧ b.toNat ≠ 0x2B := by
  simp only [isFormPlain, isByteIn, Bool.or_eq_true, Bool.and_eq_true, decide_eq_true_eq,
    beq_iff_eq] at plain
  rcases plain with (((((digit | upper) | lower) | rfl) | rfl) | rfl) | rfl
  any_goals omega
  all_goals decide

/-- Each byte is coded as something that decodes to it: itself, a plus sign, or an escape. -/
theorem decodes_formByte (b : UInt8) : Decodes (formByte b) [b] := by
  rw [formByte]
  split_ifs with plain blank
  · obtain ⟨ascii, notPercentByte, notPlusByte⟩ := toNat_of_isFormPlain plain
    have code : (Char.ofNat b.toNat).toNat = b.toNat := by
      rw [Char.ofNat, dif_pos (Or.inl (by omega))]
      rfl
    have notPlus : Char.ofNat b.toNat ≠ '+' := fun same =>
      notPlusByte (code.symm.trans (congrArg Char.toNat same))
    have notPercent : Char.ofNat b.toNat ≠ '%' := fun same =>
      notPercentByte (code.symm.trans (congrArg Char.toNat same))
    have encoded : String.utf8EncodeChar (Char.ofNat b.toNat) = [b] := by
      rw [utf8EncodeChar_of_ascii (code.trans_le ascii), code, UInt8.ofNat_toNat]
    simpa only [encoded] using decodes_character notPlus notPercent
  · subst blank
    exact fun rest => percentDecode_of_ne (by decide) rest
  · obtain ⟨high, highByte, highValue⟩ := hexDigit_read (n := b.toNat / 16)
      (Nat.div_lt_of_lt_mul (UInt8.toNat_lt b))
    obtain ⟨low, lowByte, lowValue⟩ := hexDigit_read (n := b.toNat % 16)
      (Nat.mod_lt _ (by decide))
    have coded : withoutPlus ('%' :: hexByte b) = [0x25, high, low] := by
      change withoutPlus (['%'] ++ ([hexDigit (b.toNat / 16)] ++ [hexDigit (b.toNat % 16)])) = _
      rw [withoutPlus_append, withoutPlus_append, highByte, lowByte]
      rfl
    have whole : b.toNat / 16 * 16 + b.toNat % 16 = b.toNat := by omega
    intro rest
    rw [coded]
    simp only [List.cons_append, List.nil_append, percentDecode, highValue, lowValue, whole,
      UInt8.ofNat_toNat, if_true]

/-- Coding a text and decoding it gives the text. -/
theorem decodes_formEncode (s : String) : Decodes (formEncode s).toList (bytes s) := by
  rw [formEncode, String.toList_ofList]
  induction bytes s with
  | nil => exact .nil
  | cons b bs ih =>
      rw [List.flatMap_cons]
      exact (decodes_formByte b).append ih

/-- A character that coded values consist of. -/
def isFormChar (c : Char) : Bool :=
  c.isAlphanum || c = '*' || c = '-' || c = '.' || c = '_' || c = '+' || c = '%'

theorem isFormChar_of_mem_formByte (b : UInt8) : ∀ c ∈ formByte b, isFormChar c = true := by
  have all : ∀ n : Fin 256, (formByte (UInt8.ofNat n)).all isFormChar = true := by decide +kernel
  have coded := all ⟨b.toNat, UInt8.toNat_lt b⟩
  rw [UInt8.ofNat_toNat] at coded
  exact List.all_eq_true.mp coded

/-- A coded text is made of letters, digits, four marks, plus and percent signs. -/
theorem isFormChar_of_mem_formEncode (s : String) :
    ∀ c ∈ (formEncode s).toList, isFormChar c = true := by
  intro c among
  rw [formEncode, String.toList_ofList] at among
  obtain ⟨b, -, memByte⟩ := List.mem_flatMap.mp among
  exact isFormChar_of_mem_formByte b c memByte

/-! ## Pairs of names and values -/

/-- A pair with its value as it is. -/
def plainPair (pair : String × String) : List Char :=
  pair.1.toList ++ '=' :: pair.2.toList

/-- Pairs joined to one text, with their values as they are. -/
def plainPairs (pairs : List (String × String)) : List Char :=
  separated ['&'] (pairs.map plainPair)

theorem plainPairs_cons (pair : String × String) (pairs : List (String × String)) :
    plainPairs (pair :: pairs) = plainPair pair ++ pairs.flatMap fun p => '&' :: plainPair p := by
  rw [plainPairs, List.map_cons, separated, List.flatMap_map]
  rfl

/-- Decoding leaves a name as it is. -/
def IsPlainName (name : String) : Prop :=
  '+' ∉ name.toList ∧ '%' ∉ name.toList

instance (name : String) : Decidable (IsPlainName name) :=
  inferInstanceAs (Decidable (_ ∧ _))

/-- The value of a pair is decoded and its name stands for itself. -/
theorem decodes_pair {pair : String × String} (plain : IsPlainName pair.1) :
    Decodes (pair.1.toList ++ '=' :: (formEncode pair.2).toList) (utf8 (plainPair pair)) := by
  rw [plainPair, utf8_append, utf8_cons, ← bytes_eq_utf8 pair.2]
  exact (decodes_characters plain.1 plain.2).append
    ((decodes_character (by decide) (by decide)).append (decodes_formEncode pair.2))

theorem decodes_furtherPairs {pairs : List (String × String)}
    (plain : ∀ pair ∈ pairs, IsPlainName pair.1) :
    Decodes (pairs.flatMap fun pair => '&' :: (pair.1.toList ++ '=' :: (formEncode pair.2).toList))
      (utf8 (pairs.flatMap fun pair => '&' :: plainPair pair)) := by
  induction pairs with
  | nil => exact .nil
  | cons pair pairs ih =>
      obtain ⟨plainFirst, plainRest⟩ := List.forall_mem_cons.mp plain
      rw [List.flatMap_cons, List.flatMap_cons, utf8_append, utf8_cons]
      exact ((decodes_character (by decide) (by decide)).append (decodes_pair plainFirst)).append
        (ih plainRest)

/-- A query string decodes to its pairs as they are, with the signs between them. -/
theorem decodes_formPairs {pairs : List (String × String)}
    (plain : ∀ pair ∈ pairs, IsPlainName pair.1) :
    Decodes (formPairs pairs).toList (utf8 (plainPairs pairs)) := by
  rw [formPairs, String.toList_ofList]
  cases pairs with
  | nil => exact .nil
  | cons pair pairs =>
      obtain ⟨plainFirst, plainRest⟩ := List.forall_mem_cons.mp plain
      rw [List.map_cons, separated, List.flatMap_map, plainPairs_cons, utf8_append]
      exact (decodes_pair plainFirst).append (decodes_furtherPairs plainRest)

/-- Decoding encoded pairs gives the pairs as they were. -/
theorem formDecode_formPairs {pairs : List (String × String)}
    (plain : ∀ pair ∈ pairs, IsPlainName pair.1) :
    formDecode (formPairs pairs) = String.ofList (plainPairs pairs) := by
  refine formDecode_of_decodes ?_
  rw [bytes_eq_utf8, String.toList_ofList]
  exact decodes_formPairs plain

end EntityGateway.Text
