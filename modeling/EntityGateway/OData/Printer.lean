import EntityGateway.OData.Options
import EntityGateway.Text.Form
import EntityGateway.Text.Quoted
import EntityGateway.Text.Separated

/-!
# The text of query options

How options are written: each as a name and a value, in a fixed order, and all of them as a query
string, in which the values are form-coded. The number of all records is always asked for.
-/

namespace EntityGateway.OData

/-- The characters of a literal. -/
def Literal.chars : Literal → List Char
  | null => "null".toList
  | boolean true => "true".toList
  | boolean false => "false".toList
  | raw text => text.toList
  | string s => Text.doubleQuoted '\'' s.toList

/-- The name of a comparison. -/
def Comparison.name : Comparison → String
  | equal => "eq"
  | notEqual => "ne"
  | greater => "gt"
  | less => "lt"
  | greaterOrEqual => "ge"
  | lessOrEqual => "le"

/-- The name of a search. -/
def StringFunction.name : StringFunction → String
  | contains => "contains"
  | startsWith => "startswith"
  | endsWith => "endswith"

/-- The arguments of a call, each after a comma. -/
def Arguments.chars : Arguments → List Char
  | none => []
  | single value => ",PropertyValue=".toList ++ value.chars
  | pair first second =>
    ",PropertyValue1=".toList ++ first.chars ++ ",PropertyValue2=".toList ++ second.chars
  | list values =>
    ",PropertyValues=[".toList ++ Text.separated [','] (values.map Literal.chars) ++ [']']

/-- The namespace of the platform's functions. -/
def platformNamespace : String := "Microsoft.Dynamics.CRM"

mutual

/-- The characters of an expression. Joined expressions stand in parentheses; joining none gives a
truth value. -/
def Expression.chars : Expression → List Char
  | .all [] => (Literal.boolean true).chars
  | .all (first :: rest) => '(' :: first.chars ++ Expression.joined " and ".toList rest
  | .any [] => (Literal.boolean false).chars
  | .any (first :: rest) => '(' :: first.chars ++ Expression.joined " or ".toList rest
  | .not item => "not ".toList ++ item.chars
  | .compare property comparison value =>
    property.toList ++ ' ' :: comparison.name.toList ++ ' ' :: value.chars
  | .search function property value =>
    function.name.toList ++ '(' :: property.toList ++ ", ".toList ++ value.chars ++ [')']
  | .call function property arguments =>
    platformNamespace.toList ++ '.' :: function.toList ++ "(PropertyName=".toList ++
      (Literal.string property).chars ++ arguments.chars ++ [')']
  | .literal value => value.chars

/-- Further expressions, each after the separator, and the closing parenthesis. -/
def Expression.joined (separator : List Char) : List Expression → List Char
  | [] => [')']
  | first :: rest => separator ++ first.chars ++ Expression.joined separator rest

end

/-- The text of an expression. -/
def Expression.text (e : Expression) : String :=
  String.ofList e.chars

/-- One element of the order. -/
def Ordering.chars (o : Ordering) : List Char :=
  o.property.toList ++ (if o.descending then " desc" else " asc").toList

/-- The continuation in the form of an element. -/
def SkipToken.text (t : SkipToken) : String :=
  "<cookie pagenumber='" ++ String.ofList (Nat.toDigits 10 t.pageNumber.toNat) ++
    "' pagingcookie='" ++ t.cookie ++ "' istracking='False' />"

/-- A text list with commas between the texts. -/
def commaSeparated (items : List (List Char)) : String :=
  String.ofList (Text.separated [','] items)

/-- An option by its name, if it is there at all. -/
def optionIf (present : Bool) (name value : String) : List (String × String) :=
  if present then [(name, value)] else []

/-- The options in the order in which they are sent, with their values as they are. -/
def Options.pairs (o : Options) : List (String × String) :=
  ("$count", "true") ::
    (optionIf (!o.select.isEmpty) "$select" (commaSeparated (o.select.map String.toList)) ++
      (o.top.toList.map fun n => ("$top", String.ofList (Nat.toDigits 10 n.toNat))) ++
      (o.skipToken.toList.map fun t => ("$skiptoken", t.text)) ++
      optionIf (!o.order.isEmpty) "$orderby" (commaSeparated (o.order.map Ordering.chars)) ++
      (o.filter.toList.map fun e => ("$filter", e.text)))

/-- The query string of a request. -/
def Options.queryString (o : Options) : String :=
  Text.formPairs o.pairs

end EntityGateway.OData
