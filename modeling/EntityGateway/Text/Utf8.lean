/-!
# UTF-8

The bytes of a text, and the lenient reading of bytes that need not be a text: each maximal
sequence that starts like a character and is broken off, and each byte that starts none, stands
for one replacement character.
-/

namespace EntityGateway.Text

/-- The UTF-8 bytes of a text. -/
def bytes (s : String) : List UInt8 :=
  s.toUTF8.toList

/-- What stands for a part of the bytes that is no character. -/
def replacement : Char := '\uFFFD'

/-- A byte between two bounds. -/
def isByteIn (low high : Nat) (b : UInt8) : Bool :=
  low ≤ b.toNat && b.toNat ≤ high

/-- What may follow a first byte: for each further byte of the character the range it must lie in.
`none` if no character starts with this byte. -/
def continuations (first : UInt8) : Option (List (Nat × Nat)) :=
  let n := first.toNat
  if n < 0x80 then some []
  else if n < 0xC2 then none
  else if n < 0xE0 then some [(0x80, 0xBF)]
  else if n = 0xE0 then some [(0xA0, 0xBF), (0x80, 0xBF)]
  else if n = 0xED then some [(0x80, 0x9F), (0x80, 0xBF)]
  else if n < 0xF0 then some [(0x80, 0xBF), (0x80, 0xBF)]
  else if n = 0xF0 then some [(0x90, 0xBF), (0x80, 0xBF), (0x80, 0xBF)]
  else if n < 0xF4 then some [(0x80, 0xBF), (0x80, 0xBF), (0x80, 0xBF)]
  else if n = 0xF4 then some [(0x80, 0x8F), (0x80, 0xBF), (0x80, 0xBF)]
  else none

/-- The bits that a first byte gives to the code point, by the number of bytes that follow it. -/
def firstBits (first : UInt8) : Nat → Nat
  | 0 => first.toNat
  | 1 => first.toNat % 0x20
  | 2 => first.toNat % 0x10
  | _ => first.toNat % 0x08

/-- Takes the bytes that belong to a character in progress, adding their bits to `code`. The answer
is the code point, if all expected bytes came, and the number of bytes taken. -/
def takeContinuations (code : Nat) : List (Nat × Nat) → List UInt8 → Option Nat × Nat
  | [], _ => (some code, 0)
  | _ :: _, [] => (none, 0)
  | (low, high) :: ranges, b :: rest =>
    if isByteIn low high b then
      let (result, taken) := takeContinuations (code * 0x40 + b.toNat % 0x40) ranges rest
      (result, taken + 1)
    else (none, 0)

/-- Reads bytes leniently, the first `skip` of which belong to a character already read. -/
def lossyAfter : Nat → List UInt8 → List Char
  | _, [] => []
  | skip + 1, _ :: rest => lossyAfter skip rest
  | 0, b :: rest =>
    match continuations b with
    | none => replacement :: lossyAfter 0 rest
    | some ranges =>
      match takeContinuations (firstBits b ranges.length) ranges rest with
      | (some code, taken) => Char.ofNat code :: lossyAfter taken rest
      | (none, taken) => replacement :: lossyAfter taken rest

/-- The text of bytes, read leniently. -/
def ofBytesLossy (bs : List UInt8) : String :=
  String.ofList (lossyAfter 0 bs)

end EntityGateway.Text
