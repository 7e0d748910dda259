import EntityGateway.Number.DecimalReader
import EntityGateway.Text.Blank

/-!
# Texts that stand for values

Conditions may carry a number or a truth value as text. Where the type of the attribute asks for
one, the text is read, and is taken for the value if it reads as one.
-/

namespace EntityGateway

/-- A text that reads as a decimal number, without the blanks around it. The text itself is kept,
not the number. -/
def numericText? (s : String) : Option String :=
  let trimmed := Text.trim s
  (Decimal.read? trimmed).map fun _ => trimmed

/-- A text that reads as a truth value, in whatever case. -/
def truthText? (s : String) : Option Bool :=
  let lower := s.toList.map Char.toLower
  if lower = "true".toList then some true
  else if lower = "false".toList then some false
  else none

end EntityGateway
