import EntityGateway.Proofs.Text.Utf8
import EntityGateway.Text.Base64
import Mathlib.Tactic.SplitIfs

/-!
# Base64 has one text for some bytes

Decoding undoes encoding, and it accepts nothing else: a text is read as some bytes exactly if it is
what these bytes are written as (`decode?_eq_some_iff`). So the texts that are read are the
canonical ones, with their padding and without stray bits behind the last byte.

Both directions go along groups of four characters. A group stands for four numbers of six bits,
which hold the bits of three bytes.
-/

namespace EntityGateway.Text.Base64

/-! ## Six bits -/

/-- The symbol of each of the sixty-four values gives the value back. -/
theorem symbolValue?_symbol {n : Nat} (six : n < 64) : symbolValue? (symbol n) = some n := by
  have all : ∀ n : Fin 64, symbolValue? (symbol n) = some n.val := by decide
  exact all ⟨n, six⟩

theorem symbol_ne_padding {n : Nat} (six : n < 64) : symbol n ≠ '=' := by
  intro padding
  have read := symbolValue?_symbol six
  rw [padding] at read
  cases read

theorem le_iff_toNat_le {c d : Char} : c ≤ d ↔ c.toNat ≤ d.toNat :=
  UInt32.le_iff_toNat_le

/-- Each number of six bits has one character. -/
theorem of_symbolValue? {c : Char} {n : Nat} (read : symbolValue? c = some n) :
    n < 64 ∧ c = symbol n := by
  have code {m : Nat} (same : m = c.toNat) : c = Char.ofNat m := by rw [same, Char.ofNat_toNat]
  simp only [symbolValue?, le_iff_toNat_le, Char.reduceToNat] at read
  split_ifs at read with upper lower digit plus slash
  · obtain rfl := Option.some.inj read
    refine ⟨by omega, ?_⟩
    rw [symbol, if_pos (by omega)]
    exact code (by omega)
  · obtain rfl := Option.some.inj read
    refine ⟨by omega, ?_⟩
    rw [symbol, if_neg (by omega), if_pos (by omega)]
    exact code (by omega)
  · obtain rfl := Option.some.inj read
    refine ⟨by omega, ?_⟩
    rw [symbol, if_neg (by omega), if_neg (by omega), if_pos (by omega)]
    exact code (by omega)
  · obtain rfl := Option.some.inj read
    exact ⟨by decide, plus⟩
  · obtain rfl := Option.some.inj read
    exact ⟨by decide, slash⟩

/-! ## Groups -/

/-- The numbers of a group of three bytes hold the bits of these bytes. -/
theorem tripleBytes_of_bytes (a b c : UInt8) :
    tripleBytes (a.toNat / 4) (a.toNat % 4 * 16 + b.toNat / 16) (b.toNat % 16 * 4 + c.toNat / 64)
      (c.toNat % 64) = [a, b, c] := by
  have byte {n : Nat} {d : UInt8} (same : n = d.toNat) : UInt8.ofNat n = d := by
    rw [same, UInt8.ofNat_toNat]
  have aLt := a.toNat_lt
  have bLt := b.toNat_lt
  have cLt := c.toNat_lt
  rw [tripleBytes, byte (d := a) (by omega), byte (d := b) (by omega), byte (d := c) (by omega)]

variable {x y z w : Nat}

theorem toNat_firstByte (xSix : x < 64) (ySix : y < 64) :
    (UInt8.ofNat (x * 4 + y / 16)).toNat = x * 4 + y / 16 :=
  toNat_ofNat_byte (by omega)

theorem toNat_secondByte (y : Nat) (zSix : z < 64) :
    (UInt8.ofNat (y % 16 * 16 + z / 4)).toNat = y % 16 * 16 + z / 4 :=
  toNat_ofNat_byte (by omega)

theorem toNat_thirdByte (z : Nat) (wSix : w < 64) :
    (UInt8.ofNat (z % 4 * 64 + w)).toNat = z % 4 * 64 + w :=
  toNat_ofNat_byte (by omega)

/-- One byte is written as two symbols and two paddings if the second has no further bits. -/
theorem encodeBytes_oneByte (xSix : x < 64) (ySix : y < 64) (noRest : y % 16 = 0) :
    encodeBytes [UInt8.ofNat (x * 4 + y / 16)] = [symbol x, symbol y, '=', '='] := by
  have xBits : (x * 4 + y / 16) / 4 = x := by omega
  have yBits : (x * 4 + y / 16) % 4 * 16 = y := by omega
  rw [encodeBytes, toNat_firstByte xSix ySix, xBits, yBits]

/-- Two bytes are written as three symbols and a padding if the third has no further bits. -/
theorem encodeBytes_twoBytes (xSix : x < 64) (ySix : y < 64) (zSix : z < 64)
    (noRest : z % 4 = 0) :
    encodeBytes [UInt8.ofNat (x * 4 + y / 16), UInt8.ofNat (y % 16 * 16 + z / 4)] =
      [symbol x, symbol y, symbol z, '='] := by
  have xBits : (x * 4 + y / 16) / 4 = x := by omega
  have yBits : (x * 4 + y / 16) % 4 * 16 + (y % 16 * 16 + z / 4) / 16 = y := by omega
  have zBits : (y % 16 * 16 + z / 4) % 16 * 4 = z := by omega
  rw [encodeBytes, toNat_firstByte xSix ySix, toNat_secondByte y zSix, xBits, yBits, zBits]

/-- Three bytes are written as four symbols. -/
theorem encodeBytes_tripleBytes (xSix : x < 64) (ySix : y < 64) (zSix : z < 64) (wSix : w < 64)
    (rest : List UInt8) : encodeBytes (tripleBytes x y z w ++ rest) =
      symbol x :: symbol y :: symbol z :: symbol w :: encodeBytes rest := by
  have xBits : (x * 4 + y / 16) / 4 = x := by omega
  have yBits : (x * 4 + y / 16) % 4 * 16 + (y % 16 * 16 + z / 4) / 16 = y := by omega
  have zBits : (y % 16 * 16 + z / 4) % 16 * 4 + (z % 4 * 64 + w) / 64 = z := by omega
  have wBits : (z % 4 * 64 + w) % 64 = w := by omega
  rw [tripleBytes, List.cons_append, List.cons_append, List.cons_append, List.nil_append,
    encodeBytes, toNat_firstByte xSix ySix, toNat_secondByte y zSix, toNat_thirdByte z wSix, xBits,
    yBits, zBits, wBits]

/-! ## Reading what was written -/

/-- A complete group is read in front of every rest. -/
theorem decodeChars?_group (xSix : x < 64) (ySix : y < 64) (zSix : z < 64) (wSix : w < 64)
    (rest : List Char) :
    decodeChars? (symbol x :: symbol y :: symbol z :: symbol w :: rest) =
      (decodeChars? rest).map (tripleBytes x y z w ++ ·) := by
  cases rest with
  | nil =>
      simp only [decodeChars?, decodeLast?, symbolValue?_symbol xSix, symbolValue?_symbol ySix,
        symbolValue?_symbol zSix, symbolValue?_symbol wSix, symbol_ne_padding zSix,
        symbol_ne_padding wSix, Option.bind_eq_bind, Option.bind_some, if_false, Option.map_some,
        List.append_nil]
  | cons c rest =>
      simp only [decodeChars?, symbolValue?_symbol xSix, symbolValue?_symbol ySix,
        symbolValue?_symbol zSix, symbolValue?_symbol wSix, Option.bind_eq_bind, Option.bind_some]
      cases decodeChars? (c :: rest) <;> rfl

/-- Bytes are read from what they are written as. -/
theorem decodeChars?_encodeBytes (bs : List UInt8) : decodeChars? (encodeBytes bs) = some bs := by
  fun_induction encodeBytes bs with
  | case1 => rfl
  | case2 a =>
      have := a.toNat_lt
      have aBits : a.toNat / 4 * 4 + a.toNat % 4 * 16 / 16 = a.toNat := by omega
      have noRest : a.toNat % 4 * 16 % 16 = 0 := by omega
      simp only [decodeChars?, decodeLast?, symbolValue?_symbol (by omega : a.toNat / 4 < 64),
        symbolValue?_symbol (by omega : a.toNat % 4 * 16 < 64), Option.bind_eq_bind,
        Option.bind_some, if_true, noRest, and_self, aBits, UInt8.ofNat_toNat]
  | case3 a b =>
      have := a.toNat_lt
      have := b.toNat_lt
      have aBits : a.toNat / 4 * 4 + (a.toNat % 4 * 16 + b.toNat / 16) / 16 = a.toNat := by omega
      have bBits : (a.toNat % 4 * 16 + b.toNat / 16) % 16 * 16 + b.toNat % 16 * 4 / 4 =
          b.toNat := by omega
      have noRest : b.toNat % 16 * 4 % 4 = 0 := by omega
      have third : b.toNat % 16 * 4 < 64 := by omega
      simp only [decodeChars?, decodeLast?, symbolValue?_symbol (by omega : a.toNat / 4 < 64),
        symbolValue?_symbol (by omega : a.toNat % 4 * 16 + b.toNat / 16 < 64),
        symbolValue?_symbol third, symbol_ne_padding third, Option.bind_eq_bind,
        Option.bind_some, if_true, if_false, noRest, aBits, bBits, UInt8.ofNat_toNat]
  | case4 a b c rest ih =>
      have := a.toNat_lt
      have := b.toNat_lt
      have := c.toNat_lt
      rw [decodeChars?_group (by omega) (by omega) (by omega) (by omega), ih,
        tripleBytes_of_bytes]
      rfl

/-! ## Nothing else is read -/

/-- The last group is written as it was read: further bits and other paddings are refused. -/
theorem encodeBytes_of_decodeLast? {a b c d : Char} {bs : List UInt8}
    (read : decodeLast? a b c d = some bs) : encodeBytes bs = [a, b, c, d] := by
  obtain ⟨x, xRead, afterX⟩ := Option.bind_eq_some_iff.mp read
  obtain ⟨y, yRead, afterY⟩ := Option.bind_eq_some_iff.mp afterX
  obtain ⟨xSix, aIs⟩ := of_symbolValue? xRead
  obtain ⟨ySix, bIs⟩ := of_symbolValue? yRead
  rw [aIs, bIs]
  split_ifs at afterY with cPads padded dPads
  · obtain rfl := Option.some.inj afterY
    rw [cPads, padded.1, encodeBytes_oneByte xSix ySix padded.2]
  · obtain ⟨z, zRead, afterZ⟩ := Option.bind_eq_some_iff.mp afterY
    obtain ⟨zSix, cIs⟩ := of_symbolValue? zRead
    split_ifs at afterZ with noRest
    obtain rfl := Option.some.inj afterZ
    rw [cIs, dPads, encodeBytes_twoBytes xSix ySix zSix noRest]
  · obtain ⟨z, zRead, afterZ⟩ := Option.bind_eq_some_iff.mp afterY
    obtain ⟨w, wRead, afterW⟩ := Option.bind_eq_some_iff.mp afterZ
    obtain ⟨zSix, cIs⟩ := of_symbolValue? zRead
    obtain ⟨wSix, dIs⟩ := of_symbolValue? wRead
    obtain rfl := Option.some.inj afterW
    rw [cIs, dIs]
    exact encodeBytes_tripleBytes xSix ySix zSix wSix []

/-- A text that is decoded is the code of what it is decoded to, so there is one code for each list
of bytes. -/
theorem encodeBytes_of_decodeChars? {cs : List Char} {bs : List UInt8}
    (read : decodeChars? cs = some bs) : encodeBytes bs = cs := by
  fun_induction decodeChars? cs generalizing bs with
  | case1 =>
      cases read
      rfl
  | case2 a b c d => exact encodeBytes_of_decodeLast? read
  | case3 a b c d rest long ih =>
      obtain ⟨x, xRead, afterX⟩ := Option.bind_eq_some_iff.mp read
      obtain ⟨y, yRead, afterY⟩ := Option.bind_eq_some_iff.mp afterX
      obtain ⟨z, zRead, afterZ⟩ := Option.bind_eq_some_iff.mp afterY
      obtain ⟨w, wRead, afterW⟩ := Option.bind_eq_some_iff.mp afterZ
      obtain ⟨more, restRead, whole⟩ := Option.bind_eq_some_iff.mp afterW
      obtain ⟨xSix, aIs⟩ := of_symbolValue? xRead
      obtain ⟨ySix, bIs⟩ := of_symbolValue? yRead
      obtain ⟨zSix, cIs⟩ := of_symbolValue? zRead
      obtain ⟨wSix, dIs⟩ := of_symbolValue? wRead
      obtain rfl := Option.some.inj whole
      rw [encodeBytes_tripleBytes xSix ySix zSix wSix, ih restRead, aIs, bIs, cIs, dIs]
  | case4 => cases read

/-- The bytes of a text are the ones that it is the encoding of. -/
theorem decode?_eq_some_iff {s : String} {bs : List UInt8} :
    decode? s = some bs ↔ s = encode bs := by
  constructor
  · intro read
    rw [encode, encodeBytes_of_decodeChars? read, String.ofList_toList]
  · rintro rfl
    rw [decode?, encode, String.toList_ofList, decodeChars?_encodeBytes]

/-- A text that nothing is written as is not read. -/
theorem decode?_eq_none_iff {s : String} : decode? s = none ↔ ∀ bs, s ≠ encode bs := by
  simp only [Option.eq_none_iff_forall_ne_some, ne_eq, decode?_eq_some_iff]

end EntityGateway.Text.Base64
