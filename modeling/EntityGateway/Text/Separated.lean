/-!
# Separators

Texts written one after the other with a separator between them, and addresses to which a path with
a slash of its own is added.
-/

namespace EntityGateway.Text

/-- Texts with a separator between them. -/
def separated (separator : List Char) : List (List Char) → List Char
  | [] => []
  | first :: rest => first ++ rest.flatMap (separator ++ ·)

/-- The text without slashes at its end. -/
def withoutSlashes (s : String) : String :=
  String.ofList (s.toList.reverse.dropWhile (· = '/')).reverse

end EntityGateway.Text
