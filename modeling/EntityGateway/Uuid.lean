/-!
# Identifiers of records

A record is identified by one hundred and twenty-eight bits. Identifiers are written as thirty-two
lower-case hexadecimal digits in five groups, and read in four forms: with or without the hyphens
between the groups, and the hyphenated form also in braces or after `urn:uuid:`.
-/

namespace EntityGateway

/-- An identifier of one hundred and twenty-eight bits. -/
structure Uuid where
  bits : BitVec 128
  deriving DecidableEq

namespace Uuid

/-- The identifier of which all bits are zero. -/
def zero : Uuid := ⟨0⟩

/-- The value of a hexadecimal digit. -/
def digit? (c : Char) : Option Nat :=
  if '0' ≤ c ∧ c ≤ '9' then some (c.toNat - 0x30)
  else if 'a' ≤ c ∧ c ≤ 'f' then some (c.toNat - 0x57)
  else if 'A' ≤ c ∧ c ≤ 'F' then some (c.toNat - 0x37)
  else none

/-- A lower-case hexadecimal digit. -/
def digitChar (n : Nat) : Char :=
  if n < 10 then Char.ofNat (0x30 + n) else Char.ofNat (0x57 + n)

/-- The lowest `count` hexadecimal digits of a number. -/
def hexDigits (n : Nat) : Nat → List Char
  | 0 => []
  | count + 1 => hexDigits (n / 16) count ++ [digitChar (n % 16)]

/-- The digits of an identifier with hyphens between the groups. -/
def chars (u : Uuid) : List Char :=
  let digits := hexDigits u.bits.toNat 32
  digits.take 8 ++ '-' :: (digits.drop 8).take 4 ++ '-' :: (digits.drop 12).take 4 ++
    '-' :: (digits.drop 16).take 4 ++ '-' :: digits.drop 20

/-- The text of an identifier. -/
def text (u : Uuid) : String :=
  String.ofList u.chars

/-- The number that hexadecimal digits stand for. -/
def hexNumber? : List Char → Option Nat :=
  List.foldl
    (fun value c => do
      let v ← value
      let d ← digit? c
      some (v * 16 + d))
    (some 0)

/-- Reads thirty-two hexadecimal digits. -/
def readSimple? (cs : List Char) : Option Uuid :=
  if cs.length = 32 then (hexNumber? cs).map fun n => ⟨BitVec.ofNat 128 n⟩ else none

/-- Reads digits in groups of eight, four, four, four and twelve with hyphens between them. -/
def readHyphenated? (cs : List Char) : Option Uuid :=
  let isHyphen (i : Nat) : Bool := cs[i]? = some '-'
  if cs.length = 36 ∧ isHyphen 8 ∧ isHyphen 13 ∧ isHyphen 18 ∧ isHyphen 23 then
    readSimple? (cs.take 8 ++ (cs.drop 9).take 4 ++ (cs.drop 14).take 4 ++
      (cs.drop 19).take 4 ++ cs.drop 24)
  else none

/-- What stands before the digits in the form of a resource name. -/
def urnStart : List Char := ['u', 'r', 'n', ':', 'u', 'u', 'i', 'd', ':']

/-- Reads the characters of an identifier in any of the four forms. -/
def readChars? (cs : List Char) : Option Uuid :=
  if cs.length = 32 then readSimple? cs
  else if cs.length = 36 then readHyphenated? cs
  else if cs.length = 38 ∧ cs.head? = some '{' ∧ cs.getLast? = some '}' then
    readHyphenated? ((cs.drop 1).take 36)
  else if cs.length = 45 ∧ (cs.take 9).map Char.toLower = urnStart then
    readHyphenated? (cs.drop 9)
  else none

/-- Reads a text as an identifier. -/
def read? (s : String) : Option Uuid :=
  readChars? s.toList

end Uuid

end EntityGateway
