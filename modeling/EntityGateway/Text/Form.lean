import EntityGateway.Text.Separated
import EntityGateway.Text.Utf8

/-!
# Form coding

The coding of `application/x-www-form-urlencoded`: letters, digits and `*-._` stand for themselves,
a blank is a plus sign, and every other byte is written as a percent sign and two hexadecimal
digits. Decoding is lenient: a percent sign that no two hexadecimal digits follow stands for itself.
-/

namespace EntityGateway.Text

/-- The byte is written as it is. -/
def isFormPlain (b : UInt8) : Bool :=
  isByteIn 0x30 0x39 b || isByteIn 0x41 0x5A b || isByteIn 0x61 0x7A b ||
    b == 0x2A || b == 0x2D || b == 0x2E || b == 0x5F

/-- An upper-case hexadecimal digit. -/
def hexDigit (n : Nat) : Char :=
  if n < 10 then Char.ofNat (0x30 + n) else Char.ofNat (0x37 + n)

/-- A byte as two upper-case hexadecimal digits. -/
def hexByte (b : UInt8) : List Char :=
  [hexDigit (b.toNat / 16), hexDigit (b.toNat % 16)]

/-- The written form of one byte. -/
def formByte (b : UInt8) : List Char :=
  if isFormPlain b then [Char.ofNat b.toNat]
  else if b = 0x20 then ['+']
  else '%' :: hexByte b

/-- The form coding of a text. -/
def formEncode (s : String) : String :=
  String.ofList ((bytes s).flatMap formByte)

/-- Names and values joined to one text. The values are form-coded, the names are not. -/
def formPairs (pairs : List (String × String)) : String :=
  String.ofList <| separated ['&'] <| pairs.map fun pair =>
    pair.1.toList ++ '=' :: (formEncode pair.2).toList

/-- The value of a hexadecimal digit. -/
def hexValue? (c : Char) : Option Nat :=
  if '0' ≤ c ∧ c ≤ '9' then some (c.toNat - 0x30)
  else if 'a' ≤ c ∧ c ≤ 'f' then some (c.toNat - 0x57)
  else if 'A' ≤ c ∧ c ≤ 'F' then some (c.toNat - 0x37)
  else none

/-- The value of a byte that is a hexadecimal digit. -/
def hexByteValue? (b : UInt8) : Option Nat :=
  hexValue? (Char.ofNat b.toNat)

/-- Undoes percent coding on bytes. -/
def percentDecode : List UInt8 → List UInt8
  | [] => []
  | b :: rest =>
    if b = 0x25 then
      match rest with
      | high :: low :: rest' =>
        match hexByteValue? high, hexByteValue? low with
        | some h, some l => UInt8.ofNat (h * 16 + l) :: percentDecode rest'
        | _, _ => b :: percentDecode (high :: low :: rest')
      | rest' => b :: percentDecode rest'
    else b :: percentDecode rest

/-- Plus signs become blanks. -/
def plusToBlank (s : String) : String :=
  s.map fun c => if c = '+' then ' ' else c

/-- Undoes form coding: plus signs become blanks, then percent coding is undone and the bytes are
read leniently as UTF-8. -/
def formDecode (s : String) : String :=
  ofBytesLossy (percentDecode (bytes (plusToBlank s)))

end EntityGateway.Text
