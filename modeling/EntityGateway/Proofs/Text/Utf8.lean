import EntityGateway.Text.Utf8
import Mathlib.Data.String.Basic
import Mathlib.Tactic.SplitIfs

/-!
# Reading what was written in UTF-8

The lenient reader gives back every text from its bytes. A character is read from a first byte,
which names the ranges of the bytes that belong to it, and from these bytes, which give their bits
to the code point: `lossyAfter_character`. The three longer forms of a character are instances of
it; the bounds of the second byte exclude the forms that are too long and the surrogates, and no
character is written that way.
-/

namespace EntityGateway.Text

/-- The bytes of some characters. -/
def utf8 (cs : List Char) : List UInt8 :=
  cs.flatMap String.utf8EncodeChar

theorem toList_loop_eq (bs : ByteArray) (i : Nat) (read : List UInt8) :
    ByteArray.toList.loop bs i read = read.reverse ++ bs.data.toList.drop i := by
  fun_induction ByteArray.toList.loop bs i read with
  | case1 i read inside ih =>
      have length : i < bs.data.toList.length := inside
      have next : bs.get! i = bs.data.toList[i] := getElem!_pos bs.data i inside
      rw [ih, next, List.drop_eq_getElem_cons length, List.reverse_cons, List.append_assoc,
        List.singleton_append]
  | case2 i read outside =>
      have length : bs.data.toList.length ≤ i := Nat.le_of_not_lt outside
      rw [List.drop_eq_nil_of_le length, List.append_nil]

theorem bytes_eq_utf8 (s : String) : bytes s = utf8 s.toList := by
  have encoded : s.toUTF8 = s.toList.utf8Encode := by
    rw [String.toUTF8_eq_toByteArray, ← String.toByteArray_ofList, String.ofList_toList]
  rw [bytes, encoded, ByteArray.toList, toList_loop_eq, List.utf8Encode,
    List.toList_data_toByteArray]
  rfl

@[simp] theorem utf8_cons (c : Char) (cs : List Char) :
    utf8 (c :: cs) = String.utf8EncodeChar c ++ utf8 cs :=
  List.flatMap_cons

@[simp] theorem utf8_append (cs ds : List Char) : utf8 (cs ++ ds) = utf8 cs ++ utf8 ds :=
  List.flatMap_append

/-! ## Characters -/

/-- The bytes of a character that has been read are passed over. -/
theorem lossyAfter_length (taken rest : List UInt8) :
    lossyAfter taken.length (taken ++ rest) = lossyAfter 0 rest := by
  induction taken with
  | nil => rfl
  | cons b taken ih => rw [List.length_cons, List.cons_append, lossyAfter, ih]

/-- A character is read from a first byte and from the further bytes that it asks for. -/
theorem lossyAfter_character {first : UInt8} {rest : List UInt8} {ranges : List (Nat × Nat)}
    {c : Char} (further : List UInt8) (begins : continuations first = some ranges)
    {bits : Nat} (given : firstBits first ranges.length = bits)
    (goesOn : takeContinuations bits ranges (further ++ rest) =
      (some c.toNat, further.length)) :
    lossyAfter 0 (first :: further ++ rest) = c :: lossyAfter 0 rest := by
  rw [List.cons_append, lossyAfter, begins]
  simp only [given, goesOn]
  rw [Char.ofNat_toNat, lossyAfter_length]

/-- The byte of a number below 256. -/
theorem toNat_ofNat_byte {n : Nat} (small : n < 0x100) : (UInt8.ofNat n).toNat = n :=
  UInt8.toNat_ofNat_of_lt' small

/-- A further byte gives six bits to the code point. -/
theorem takeContinuations_cons {code low high bits total taken : Nat} {ranges : List (Nat × Nat)}
    {rest : List UInt8} (six : bits < 0x40) (above : low ≤ bits + 0x80) (below : bits + 0x80 ≤ high)
    (goesOn : takeContinuations (code * 0x40 + bits) ranges rest = (some total, taken)) :
    takeContinuations code ((low, high) :: ranges) (UInt8.ofNat (bits + 0x80) :: rest) =
      (some total, taken + 1) := by
  have byte : (UInt8.ofNat (bits + 0x80)).toNat = bits + 0x80 := toNat_ofNat_byte (by omega)
  have inside : isByteIn low high (UInt8.ofNat (bits + 0x80)) = true := by
    rw [isByteIn, byte, decide_eq_true above, decide_eq_true below]
    rfl
  have low : (bits + 0x80) % 0x40 = bits := by omega
  rw [takeContinuations, if_pos inside, byte, low, goesOn]

/-- The ranges for the further bytes after a first byte that is followed by two. -/
theorem continuations_of_two {n : Nat} (small : n < 0x10000) (large : 0x800 ≤ n)
    (scalar : n < 0xD800 ∨ 0xDFFF < n) :
    ∃ low high, continuations (UInt8.ofNat (n / 4096 % 16 + 0xE0)) =
        some [(low, high), (0x80, 0xBF)] ∧
      low ≤ n / 64 % 64 + 0x80 ∧ n / 64 % 64 + 0x80 ≤ high := by
  unfold continuations
  rw [toNat_ofNat_byte (by omega)]
  by_cases first : n / 4096 = 0
  · exact ⟨0xA0, 0xBF, by simp [first], by omega, by omega⟩
  · by_cases surrogates : n / 4096 = 0xD
    · exact ⟨0x80, 0x9F, by simp [surrogates], by omega, by omega⟩
    · refine ⟨0x80, 0xBF, ?_, by omega, by omega⟩
      rw [if_neg (by omega), if_neg (by omega), if_neg (by omega), if_neg (by omega),
        if_neg (by omega), if_pos (by omega)]

/-- The ranges for the further bytes after a first byte that is followed by three. -/
theorem continuations_of_three {n : Nat} (small : n < 0x110000) (large : 0x10000 ≤ n) :
    ∃ low high, continuations (UInt8.ofNat (n / 262144 % 8 + 0xF0)) =
        some [(low, high), (0x80, 0xBF), (0x80, 0xBF)] ∧
      low ≤ n / 4096 % 64 + 0x80 ∧ n / 4096 % 64 + 0x80 ≤ high := by
  unfold continuations
  rw [toNat_ofNat_byte (by omega)]
  by_cases first : n / 262144 = 0
  · exact ⟨0x90, 0xBF, by simp [first], by omega, by omega⟩
  · by_cases last : n / 262144 = 4
    · exact ⟨0x80, 0x8F, by simp [last], by omega, by omega⟩
    · refine ⟨0x80, 0xBF, ?_, by omega, by omega⟩
      rw [if_neg (by omega), if_neg (by omega), if_neg (by omega), if_neg (by omega),
        if_neg (by omega), if_neg (by omega), if_neg (by omega), if_pos (by omega)]

section Forms

variable {c : Char} (rest : List UInt8)

theorem lossyAfter_oneByte (small : c.toNat ≤ 0x7F) :
    lossyAfter 0 ([UInt8.ofNat c.toNat] ++ rest) = c :: lossyAfter 0 rest := by
  have first : (UInt8.ofNat c.toNat).toNat = c.toNat := toNat_ofNat_byte (by omega)
  have begins : continuations (UInt8.ofNat c.toNat) = some [] := by
    rw [continuations, first, if_pos (by omega)]
  exact lossyAfter_character [] begins first rfl

theorem lossyAfter_twoBytes (small : c.toNat ≤ 0x7FF) (large : 0x7F < c.toNat) :
    lossyAfter 0 ([UInt8.ofNat (c.toNat / 64 % 32 + 0xC0),
        UInt8.ofNat (c.toNat % 64 + 0x80)] ++ rest) = c :: lossyAfter 0 rest := by
  have first : (UInt8.ofNat (c.toNat / 64 % 32 + 0xC0)).toNat = c.toNat / 64 % 32 + 0xC0 :=
    toNat_ofNat_byte (by omega)
  have begins : continuations (UInt8.ofNat (c.toNat / 64 % 32 + 0xC0)) = some [(0x80, 0xBF)] := by
    rw [continuations, first, if_neg (by omega), if_neg (by omega), if_pos (by omega)]
  have given : firstBits (UInt8.ofNat (c.toNat / 64 % 32 + 0xC0)) 1 = c.toNat / 64 := by
    rw [firstBits, first]
    omega
  have whole : c.toNat / 64 * 0x40 + c.toNat % 64 = c.toNat := by omega
  refine lossyAfter_character [_] begins given ?_
  refine takeContinuations_cons (by omega) (by omega) (by omega) ?_
  rw [takeContinuations, whole]
  rfl

theorem lossyAfter_threeBytes (small : c.toNat ≤ 0xFFFF) (large : 0x7FF < c.toNat)
    (scalar : c.toNat < 0xD800 ∨ 0xDFFF < c.toNat) :
    lossyAfter 0 ([UInt8.ofNat (c.toNat / 4096 % 16 + 0xE0),
        UInt8.ofNat (c.toNat / 64 % 64 + 0x80), UInt8.ofNat (c.toNat % 64 + 0x80)] ++ rest) =
      c :: lossyAfter 0 rest := by
  obtain ⟨low, high, begins, above, below⟩ :=
    continuations_of_two (n := c.toNat) (by omega) (by omega) scalar
  have first : (UInt8.ofNat (c.toNat / 4096 % 16 + 0xE0)).toNat = c.toNat / 4096 % 16 + 0xE0 :=
    toNat_ofNat_byte (by omega)
  have given : firstBits (UInt8.ofNat (c.toNat / 4096 % 16 + 0xE0)) 2 = c.toNat / 4096 := by
    rw [firstBits, first]
    omega
  have whole : (c.toNat / 4096 * 0x40 + c.toNat / 64 % 64) * 0x40 + c.toNat % 64 = c.toNat := by
    omega
  refine lossyAfter_character [_, _] begins given ?_
  refine takeContinuations_cons (by omega) above below ?_
  refine takeContinuations_cons (by omega) (by omega) (by omega) ?_
  rw [takeContinuations, whole]
  rfl

theorem lossyAfter_fourBytes (small : c.toNat < 0x110000) (large : 0xFFFF < c.toNat) :
    lossyAfter 0 ([UInt8.ofNat (c.toNat / 262144 % 8 + 0xF0),
        UInt8.ofNat (c.toNat / 4096 % 64 + 0x80), UInt8.ofNat (c.toNat / 64 % 64 + 0x80),
        UInt8.ofNat (c.toNat % 64 + 0x80)] ++ rest) = c :: lossyAfter 0 rest := by
  obtain ⟨low, high, begins, above, below⟩ :=
    continuations_of_three (n := c.toNat) small (by omega)
  have first : (UInt8.ofNat (c.toNat / 262144 % 8 + 0xF0)).toNat = c.toNat / 262144 % 8 + 0xF0 :=
    toNat_ofNat_byte (by omega)
  have given : firstBits (UInt8.ofNat (c.toNat / 262144 % 8 + 0xF0)) 3 = c.toNat / 262144 := by
    simp only [firstBits, first]
    omega
  have whole : ((c.toNat / 262144 * 0x40 + c.toNat / 4096 % 64) * 0x40 + c.toNat / 64 % 64) *
      0x40 + c.toNat % 64 = c.toNat := by omega
  refine lossyAfter_character [_, _, _] begins given ?_
  refine takeContinuations_cons (by omega) above below ?_
  refine takeContinuations_cons (by omega) (by omega) (by omega) ?_
  refine takeContinuations_cons (by omega) (by omega) (by omega) ?_
  rw [takeContinuations, whole]
  rfl

theorem lossyAfter_utf8EncodeChar (c : Char) :
    lossyAfter 0 (String.utf8EncodeChar c ++ rest) = c :: lossyAfter 0 rest := by
  -- No character is a surrogate, so the narrower ranges after some first bytes leave none out.
  have valid : c.toNat < 0xD800 ∨ 0xDFFF < c.toNat ∧ c.toNat < 0x110000 := c.valid
  simp only [String.utf8EncodeChar, Char.toNat_val]
  split_ifs with one two three
  · exact lossyAfter_oneByte rest one
  · exact lossyAfter_twoBytes rest two (Nat.lt_of_not_le one)
  · exact lossyAfter_threeBytes rest three (Nat.lt_of_not_le two) (by omega)
  · exact lossyAfter_fourBytes rest (by omega) (Nat.lt_of_not_le three)

end Forms

/-- Every text is read back from its bytes. -/
theorem ofBytesLossy_bytes (s : String) : ofBytesLossy (bytes s) = s := by
  have read (cs : List Char) : lossyAfter 0 (utf8 cs) = cs := by
    induction cs with
    | nil => rfl
    | cons c cs ih => rw [utf8_cons, lossyAfter_utf8EncodeChar, ih]
  rw [bytes_eq_utf8, ofBytesLossy, read, String.ofList_toList]

end EntityGateway.Text
