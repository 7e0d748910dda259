/-!
# Base64

The standard alphabet with padding. Encoding takes three bytes at a time; decoding accepts exactly
what encoding writes: the padding must be there and the bits that belong to no byte must be zero.
-/

namespace EntityGateway.Text.Base64

/-- The character for six bits. -/
def symbol (n : Nat) : Char :=
  if n < 26 then Char.ofNat (0x41 + n)
  else if n < 52 then Char.ofNat (0x61 + (n - 26))
  else if n < 62 then Char.ofNat (0x30 + (n - 52))
  else if n = 62 then '+'
  else '/'

/-- The six bits of a character. -/
def symbolValue? (c : Char) : Option Nat :=
  if 'A' ≤ c ∧ c ≤ 'Z' then some (c.toNat - 0x41)
  else if 'a' ≤ c ∧ c ≤ 'z' then some (c.toNat - 0x61 + 26)
  else if '0' ≤ c ∧ c ≤ '9' then some (c.toNat - 0x30 + 52)
  else if c = '+' then some 62
  else if c = '/' then some 63
  else none

/-- The characters for some bytes. -/
def encodeBytes : List UInt8 → List Char
  | [] => []
  | [a] =>
    [symbol (a.toNat / 4), symbol (a.toNat % 4 * 16), '=', '=']
  | [a, b] =>
    [symbol (a.toNat / 4), symbol (a.toNat % 4 * 16 + b.toNat / 16),
      symbol (b.toNat % 16 * 4), '=']
  | a :: b :: c :: rest =>
    symbol (a.toNat / 4) :: symbol (a.toNat % 4 * 16 + b.toNat / 16) ::
      symbol (b.toNat % 16 * 4 + c.toNat / 64) :: symbol (c.toNat % 64) :: encodeBytes rest

/-- The text for some bytes. -/
def encode (bs : List UInt8) : String :=
  String.ofList (encodeBytes bs)

/-- The bytes of three complete groups of six bits and one more. -/
def tripleBytes (x y z w : Nat) : List UInt8 :=
  [UInt8.ofNat (x * 4 + y / 16), UInt8.ofNat (y % 16 * 16 + z / 4), UInt8.ofNat (z % 4 * 64 + w)]

/-- The bytes of the last four characters of a text. -/
def decodeLast? (a b c d : Char) : Option (List UInt8) := do
  let x ← symbolValue? a
  let y ← symbolValue? b
  if c = '=' then
    if d = '=' ∧ y % 16 = 0 then some [UInt8.ofNat (x * 4 + y / 16)] else none
  else
    let z ← symbolValue? c
    if d = '=' then
      if z % 4 = 0 then
        some [UInt8.ofNat (x * 4 + y / 16), UInt8.ofNat (y % 16 * 16 + z / 4)]
      else none
    else
      let w ← symbolValue? d
      some (tripleBytes x y z w)

/-- The bytes that some characters stand for. -/
def decodeChars? : List Char → Option (List UInt8)
  | [] => some []
  | [a, b, c, d] => decodeLast? a b c d
  | a :: b :: c :: d :: rest => do
    let x ← symbolValue? a
    let y ← symbolValue? b
    let z ← symbolValue? c
    let w ← symbolValue? d
    let more ← decodeChars? rest
    some (tripleBytes x y z w ++ more)
  | _ => none

/-- The bytes that a text stands for, or nothing if encoding never writes the text. -/
def decode? (s : String) : Option (List UInt8) :=
  decodeChars? s.toList

end EntityGateway.Text.Base64
