import EntityGateway.Number.Double

/-!
# The words of a JSON text

Strings, numbers and the three named values, each scanned from its first character on. A scan ends
with the word and the characters after it, or with the place where the text stops being JSON: the
number of characters after the one that does not fit. A string whose value does not matter is passed
over; that is less strict than scanning it, and a control character stops it at an earlier place:
before the character and not after it.
-/

namespace EntityGateway.Scanner

/-- Blanks between the words of a JSON text. -/
def isBlank (c : Char) : Bool :=
  c = ' ' || c = '\n' || c = '\t' || c = '\r'

/-- The characters from the next word on. -/
def skipBlanks (cs : List Char) : List Char :=
  cs.dropWhile isBlank

/-- The outcome of a scan. -/
inductive Scan (α : Type) where
  | word (value : α) (rest : List Char)
  | cut (place : Nat)

/-- The value of a hexadecimal digit. -/
def hexDigit? (c : Char) : Option Nat :=
  if '0' ≤ c ∧ c ≤ '9' then some (c.toNat - 0x30)
  else if 'a' ≤ c ∧ c ≤ 'f' then some (c.toNat - 0x57)
  else if 'A' ≤ c ∧ c ≤ 'F' then some (c.toNat - 0x37)
  else none

/-- The number that four hexadecimal digits stand for. -/
def hexFour? (a b c d : Char) : Option Nat := do
  let x ← hexDigit? a
  let y ← hexDigit? b
  let z ← hexDigit? c
  let w ← hexDigit? d
  some (((x * 16 + y) * 16 + z) * 16 + w)

/-- The character that stands for itself or for a control character after a backslash. -/
def shortEscape? (c : Char) : Option Char :=
  if c = '"' ∨ c = '\\' ∨ c = '/' then some c
  else if c = 'b' then some '\x08'
  else if c = 'f' then some '\x0c'
  else if c = 'n' then some '\n'
  else if c = 'r' then some '\r'
  else if c = 't' then some '\t'
  else none

/-- The first half of a surrogate pair. -/
def isHighSurrogate (n : Nat) : Bool := 0xD800 ≤ n && n < 0xDC00

/-- The second half of a surrogate pair. -/
def isLowSurrogate (n : Nat) : Bool := 0xDC00 ≤ n && n < 0xE000

/-- The code point of a surrogate pair. -/
def pairValue (high low : Nat) : Nat :=
  (high - 0xD800) * 0x400 + (low - 0xDC00) + 0x10000

/-- The place after the next character, which does not fit. -/
def misfit (cs : List Char) : Nat := cs.length - 1

/-- What follows the first bytes of a text in UTF-8. A character of which only a part would be left
goes as a whole. -/
def dropBytes : Nat → List Char → List Char
  | 0, cs => cs
  | _ + 1, [] => []
  | count + 1, c :: rest => dropBytes (count + 1 - c.utf8Size) rest

/-- Scans four hexadecimal digits. Whether four bytes are digits shows after the last of them. -/
def scanHexFour : List Char → Scan Nat
  | a :: b :: c :: d :: rest =>
    match hexFour? a b c d with
    | some n => .word n rest
    | none => .cut (dropBytes 4 (a :: b :: c :: d :: rest)).length
  | cs => .cut (dropBytes 4 cs).length

theorem length_of_scanHexFour {cs rest : List Char} {n : Nat} (h : scanHexFour cs = .word n rest) :
    rest.length < cs.length := by
  unfold scanHexFour at h
  split at h
  · split at h
    · cases h; simp only [List.length_cons]; omega
    · cases h
  · cases h

/-- Scans the second half of a surrogate pair. -/
def scanSecondHalf (high : Nat) : List Char → Scan Char
  | '\\' :: 'u' :: rest =>
    match scanHexFour rest with
    | .word low after =>
      if isLowSurrogate low then .word (Char.ofNat (pairValue high low)) after
      else .cut after.length
    | .cut place => .cut place
  | '\\' :: rest => .cut (misfit rest)
  | rest => .cut (misfit rest)

/-- Scans what follows a backslash. -/
def scanEscape : List Char → Scan Char
  | 'u' :: rest =>
    match scanHexFour rest with
    | .word code after =>
      if isHighSurrogate code then scanSecondHalf code after
      else if isLowSurrogate code then .cut after.length
      else .word (Char.ofNat code) after
    | .cut place => .cut place
  | c :: rest =>
    match shortEscape? c with
    | some escaped => .word escaped rest
    | none => .cut rest.length
  | [] => .cut 0

/-- Scans one character of a string. -/
def scanCharacter : List Char → Scan Char
  | '\\' :: rest => scanEscape rest
  | c :: rest => if c.toNat < 0x20 then .cut rest.length else .word c rest
  | [] => .cut 0

theorem length_of_scanSecondHalf {high : Nat} {cs rest : List Char} {c : Char}
    (h : scanSecondHalf high cs = .word c rest) : rest.length < cs.length := by
  unfold scanSecondHalf at h
  split at h
  · split at h
    · next scanned =>
      have := length_of_scanHexFour scanned
      split at h
      · obtain ⟨-, rfl⟩ := (Scan.word.injEq ..).mp h
        simp only [List.length_cons]; omega
      · cases h
    · cases h
  · cases h
  · cases h

theorem length_of_scanEscape {cs rest : List Char} {c : Char}
    (h : scanEscape cs = .word c rest) : rest.length < cs.length := by
  unfold scanEscape at h
  split at h
  · split at h
    · next scanned =>
      have := length_of_scanHexFour scanned
      split at h
      · have := length_of_scanSecondHalf h
        simp only [List.length_cons]; omega
      · split at h
        · cases h
        · obtain ⟨-, rfl⟩ := (Scan.word.injEq ..).mp h
          simp only [List.length_cons]; omega
    · cases h
  · split at h
    · cases h; simp
    · cases h
  · cases h

/-- A character of a string takes room. -/
theorem length_of_scanCharacter {cs rest : List Char} {c : Char}
    (h : scanCharacter cs = .word c rest) : rest.length < cs.length := by
  unfold scanCharacter at h
  split at h
  · have := length_of_scanEscape h
    simp only [List.length_cons]; omega
  · split at h
    · cases h
    · cases h; simp
  · cases h

/-- Scans a string after its opening quote. `before` holds the characters already read, the last one
first. -/
def scanString (before : List Char) (cs : List Char) : Scan String :=
  match cs with
  | '"' :: rest => .word (String.ofList before.reverse) rest
  | cs =>
    match _ : scanCharacter cs with
    | .word c rest => scanString (c :: before) rest
    | .cut place => .cut place
termination_by cs.length
decreasing_by exact length_of_scanCharacter ‹_›

/-- Passes over one character of a string. Half of a surrogate pair is no obstacle. -/
def passCharacter : List Char → Scan Unit
  | '\\' :: 'u' :: rest =>
    match scanHexFour rest with
    | .word _ after => .word () after
    | .cut place => .cut place
  | '\\' :: c :: rest => if (shortEscape? c).isSome then .word () rest else .cut rest.length
  | ['\\'] => .cut 0
  | c :: rest => if c.toNat < 0x20 then .cut (rest.length + 1) else .word () rest
  | [] => .cut 0

theorem length_of_passCharacter {cs rest : List Char} {u : Unit}
    (h : passCharacter cs = .word u rest) : rest.length < cs.length := by
  unfold passCharacter at h
  split at h
  · split at h
    · next scanned =>
      have := length_of_scanHexFour scanned
      cases h; simp only [List.length_cons]; omega
    · cases h
  · split at h
    · cases h; simp only [List.length_cons]; omega
    · cases h
  · cases h
  · split at h
    · cases h
    · cases h; simp
  · cases h

/-- Passes over a string after its opening quote. -/
def passString (cs : List Char) : Scan Unit :=
  match cs with
  | '"' :: rest => .word () rest
  | cs =>
    match _ : passCharacter cs with
    | .word _ rest => passString rest
    | .cut place => .cut place
termination_by cs.length
decreasing_by exact length_of_passCharacter ‹_›

/-- Scans the rest of a named value. -/
def scanName : List Char → List Char → Scan Unit
  | [], cs => .word () cs
  | _ :: _, [] => .cut 0
  | expected :: more, c :: rest => if c = expected then scanName more rest else .cut rest.length

/-- A decimal digit. -/
def isDigit (c : Char) : Bool := '0' ≤ c && c ≤ '9'

/-- The values of the digits at the start of a text, and what follows them. -/
def spanDigits (cs : List Char) : List Nat × List Char :=
  ((cs.takeWhile isDigit).map fun c => c.toNat - 0x30, cs.dropWhile isDigit)

/-- A number as it is written. -/
structure Numeral where
  negative : Bool
  whole : List Nat
  /-- The digits after the point, if there is a point. -/
  fraction : Option (List Nat)
  /-- The sign and the digits of the exponent, if there is one. -/
  exponent : Option (Bool × List Nat)

/-- The exponent of a number, if there is one. -/
def scanExponent (cs : List Char) : Scan (Option (Bool × List Nat)) :=
  match cs with
  | c :: rest =>
    if c = 'e' ∨ c = 'E' then
      let negative := rest.head? = some '-'
      let unsigned := if negative ∨ rest.head? = some '+' then rest.drop 1 else rest
      let (digits, left) := spanDigits unsigned
      if digits.isEmpty then .cut (misfit unsigned) else .word (some (negative, digits)) left
    else .word none cs
  | [] => .word none []

/-- The fraction of a number, if there is one. -/
def scanFraction (cs : List Char) : Scan (Option (List Nat)) :=
  match cs with
  | '.' :: rest =>
    let (digits, left) := spanDigits rest
    if digits.isEmpty then .cut (misfit rest) else .word (some digits) left
  | _ => .word none cs

/-- Scans a number without its sign. A leading zero has no further digit after it. -/
def scanUnsigned (negative : Bool) (cs : List Char) : Scan Numeral :=
  let (whole, rest) := spanDigits cs
  match whole with
  | [] => .cut (misfit cs)
  | 0 :: _ :: _ => .cut (misfit cs)
  | _ =>
    match scanFraction rest with
    | .cut place => .cut place
    | .word fraction rest =>
      match scanExponent rest with
      | .cut place => .cut place
      | .word exponent rest => .word ⟨negative, whole, fraction, exponent⟩ rest

/-- Scans a number. -/
def scanNumber : List Char → Scan Numeral
  | '-' :: rest => scanUnsigned true rest
  | cs => scanUnsigned false cs

/-- The greatest significand. -/
def significandBound : Nat := Nat.pow 2 64 - 1

/-- Appends the digits of a whole number to a significand as long as there is room. The second
number counts the digits for which there was none. -/
def appendWhole (significand : Nat) : List Nat → Nat × Nat
  | [] => (significand, 0)
  | d :: rest =>
    if significandBound < significand * 10 + d then (significand, rest.length + 1)
    else appendWhole (significand * 10 + d) rest

/-- Appends the digits of a fraction to a significand as long as there is room. The second number
counts the digits appended. -/
def appendFraction (significand : Nat) : List Nat → Nat × Nat
  | [] => (significand, 0)
  | d :: rest =>
    if significandBound < significand * 10 + d then (significand, 0)
    else
      let (result, count) := appendFraction (significand * 10 + d) rest
      (result, count + 1)

/-- The value of a number: an exact integer, a double, or none if it is beyond the doubles. -/
inductive NumberValue where
  | integer (value : Int)
  | double (value : Double)
  | beyond

/-- A double, if there is one. -/
def NumberValue.ofDouble? : Option Double → NumberValue
  | some d => .double d
  | none => .beyond

/-- The value of a number. It is an integer if it is written as one and lies between `-2 ^ 63` and
`2 ^ 64 - 1`, the negative zero excepted, and else the double of as many leading digits as there is
room for, scaled by a power of ten. -/
def Numeral.value (n : Numeral) : NumberValue :=
  let (whole, dropped) := appendWhole 0 n.whole
  match n.fraction, n.exponent with
  | none, none =>
    if dropped = 0 then
      if !n.negative then .integer whole
      else if whole = 0 ∨ Nat.pow 2 63 < whole then .ofDouble? (Double.ofDigits? true whole 0)
      else .integer (-whole)
    else .ofDouble? (Double.ofDigits? n.negative whole dropped)
  | fraction, exponent =>
    let (significand, appended) := appendFraction whole (fraction.getD [])
    let shift : Int :=
      match exponent with
      | none => 0
      | some (negative, digits) =>
        let size : Nat := digits.foldl (fun value d => value * 10 + d) 0
        if negative then -(size : Int) else size
    .ofDouble? (Double.ofDigits? n.negative significand (dropped - appended + shift))

end EntityGateway.Scanner
