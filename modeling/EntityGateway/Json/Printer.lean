import EntityGateway.Json.Basic

/-!
# Writing JSON

Two forms of JSON text: the compact one has no blanks at all, the indented one puts each item and
each member on a line of its own, two blanks deeper than what holds it. In strings only the quote,
the backslash and control characters are escaped.
-/

namespace EntityGateway.Json

/-- A lower-case hexadecimal digit. -/
def hexDigit (n : Nat) : Char :=
  if n < 10 then Char.ofNat (0x30 + n) else Char.ofNat (0x57 + n)

/-- One character of a string. -/
def escapedChar (c : Char) : List Char :=
  if c = '"' then ['\\', '"']
  else if c = '\\' then ['\\', '\\']
  else if c = '\n' then ['\\', 'n']
  else if c = '\r' then ['\\', 'r']
  else if c = '\t' then ['\\', 't']
  else if c = '\x08' then ['\\', 'b']
  else if c = '\x0c' then ['\\', 'f']
  else if c.toNat < 0x20 then
    ['\\', 'u', '0', '0', hexDigit (c.toNat / 16), hexDigit (c.toNat % 16)]
  else [c]

/-- A string with its quotes. -/
def quoted (s : String) : List Char :=
  '"' :: s.toList.flatMap escapedChar ++ ['"']

/-- An integer. -/
def integerChars (n : Int) : List Char :=
  if n < 0 then '-' :: Nat.toDigits 10 n.natAbs else Nat.toDigits 10 n.natAbs

mutual

/-- The compact form of a value. -/
def compactChars : Json → List Char
  | null => ['n', 'u', 'l', 'l']
  | boolean true => ['t', 'r', 'u', 'e']
  | boolean false => ['f', 'a', 'l', 's', 'e']
  | integer n => integerChars n
  | double d => d.marked
  | string s => quoted s
  | array [] => ['[', ']']
  | array (item :: items) => '[' :: compactChars item ++ compactItems items
  | object [] => ['{', '}']
  | object ((name, value) :: members) =>
    '{' :: quoted name ++ ':' :: compactChars value ++ compactMembers members

/-- Further items and the end of an array. -/
def compactItems : List Json → List Char
  | [] => [']']
  | item :: items => ',' :: compactChars item ++ compactItems items

/-- Further members and the end of an object. -/
def compactMembers : List (String × Json) → List Char
  | [] => ['}']
  | (name, value) :: members =>
    ',' :: quoted name ++ ':' :: compactChars value ++ compactMembers members

end

/-- A new line at some depth. -/
def newline (depth : Nat) : List Char :=
  '\n' :: List.replicate (2 * depth) ' '

mutual

/-- The indented form of a value that stands at some depth. -/
def indentedChars (depth : Nat) : Json → List Char
  | null => ['n', 'u', 'l', 'l']
  | boolean true => ['t', 'r', 'u', 'e']
  | boolean false => ['f', 'a', 'l', 's', 'e']
  | integer n => integerChars n
  | double d => d.marked
  | string s => quoted s
  | array [] => ['[', ']']
  | array (item :: items) =>
    '[' :: newline (depth + 1) ++ indentedChars (depth + 1) item ++ indentedItems depth items
  | object [] => ['{', '}']
  | object ((name, value) :: members) =>
    '{' :: newline (depth + 1) ++ quoted name ++ ':' :: ' ' :: indentedChars (depth + 1) value ++
      indentedMembers depth members

/-- Further items and the end of an array that stands at some depth. -/
def indentedItems (depth : Nat) : List Json → List Char
  | [] => newline depth ++ [']']
  | item :: items =>
    ',' :: newline (depth + 1) ++ indentedChars (depth + 1) item ++ indentedItems depth items

/-- Further members and the end of an object that stands at some depth. -/
def indentedMembers (depth : Nat) : List (String × Json) → List Char
  | [] => newline depth ++ ['}']
  | (name, value) :: members =>
    ',' :: newline (depth + 1) ++ quoted name ++ ':' :: ' ' :: indentedChars (depth + 1) value ++
      indentedMembers depth members

end

/-- The compact text of a value. -/
def compact (j : Json) : String :=
  String.ofList j.compactChars

/-- The indented text of a value. -/
def indented (j : Json) : String :=
  String.ofList (j.indentedChars 0)

end EntityGateway.Json
