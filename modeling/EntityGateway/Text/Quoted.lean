/-!
# Quoted text

Three ways to write arbitrary text between quotes. A *backslash* form puts a backslash before the
quote and before each backslash; a *doubled* form writes the quote twice; a *described* form, used
where a value is shown to a person, also names control characters.
-/

namespace EntityGateway.Text

/-- The body of a backslash form: the quote and the backslash are written after a backslash. -/
def backslashed (quote : Char) : List Char → List Char
  | [] => []
  | c :: rest =>
    if c = quote ∨ c = '\\' then '\\' :: c :: backslashed quote rest
    else c :: backslashed quote rest

/-- Text between quotes, in backslash form. -/
def backslashQuoted (quote : Char) (cs : List Char) : List Char :=
  quote :: backslashed quote cs ++ [quote]

/-- The body of a doubled form: the quote is written twice. -/
def doubled (quote : Char) : List Char → List Char
  | [] => []
  | c :: rest =>
    if c = quote then quote :: quote :: doubled quote rest
    else c :: doubled quote rest

/-- Text between quotes, in doubled form. -/
def doubleQuoted (quote : Char) (cs : List Char) : List Char :=
  quote :: doubled quote cs ++ [quote]

/-- One character of a described text. Control characters that have no short name are given by their
code point. -/
def describedChar (c : Char) : List Char :=
  match c with
  | '"' => ['\\', '"']
  | '\\' => ['\\', '\\']
  | '\n' => ['\\', 'n']
  | '\r' => ['\\', 'r']
  | '\t' => ['\\', 't']
  | '\x00' => ['\\', '0']
  | c =>
    if c.toNat < 0x20 ∨ c.toNat = 0x7F then
      ['\\', 'u', '{'] ++ Nat.toDigits 16 c.toNat ++ ['}']
    else [c]

/-- Text between double quotes as a description of a value shows it. -/
def described (s : String) : String :=
  String.ofList ('"' :: s.toList.flatMap describedChar ++ ['"'])

end EntityGateway.Text
