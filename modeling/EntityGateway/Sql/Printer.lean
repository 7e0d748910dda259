import EntityGateway.Sql.Select
import EntityGateway.Text.Quoted
import EntityGateway.Text.Separated

/-!
# The text of selections

How statements are written. A property whose name is a plain identifier follows the alias after a
point; any other name is written in brackets and quotes, so no name can be taken for a part of the
statement. The collection is known from where the statement is sent to, so its name only matters if
it is a plain identifier; else `root` stands for it.
-/

namespace EntityGateway.Sql

/-- Words that cannot be used as bare names. -/
def reservedWords : List String := [
  "and", "array", "as", "asc", "between", "by", "desc", "distinct", "escape", "exists", "false",
  "from", "group", "in", "join", "like", "limit", "not", "null", "offset", "or", "order", "select",
  "top", "true", "value"]

/-- A letter of the ASCII range or an underscore. -/
def isNameStart (c : Char) : Bool :=
  c.isAlpha || c = '_'

/-- A letter or a digit of the ASCII range, or an underscore. -/
def isNamePart (c : Char) : Bool :=
  c.isAlphanum || c = '_'

/-- The name can be written bare: it is an identifier and no reserved word, in whatever case. -/
def isPlain (name : String) : Bool :=
  match name.toList with
  | [] => false
  | c :: rest =>
    isNameStart c && rest.all isNamePart &&
      !reservedWords.contains (String.ofList (name.toList.map Char.toLower))

/-- The name that stands for a collection whose own name is not plain. -/
def rootCollection : String := "root"

/-- An access to a property of an alias. -/
def propertyChars (aliasName name : String) : List Char :=
  if isPlain name then aliasName.toList ++ '.' :: name.toList
  else aliasName.toList ++ '[' :: Text.backslashQuoted '"' name.toList ++ [']']

/-- An integer. -/
def integerChars (n : Int) : List Char :=
  if n < 0 then '-' :: Nat.toDigits 10 n.natAbs else Nat.toDigits 10 n.natAbs

/-- A value. -/
def Literal.chars : Literal → List Char
  | null => "null".toList
  | boolean true => "true".toList
  | boolean false => "false".toList
  | integer n => integerChars n.toInt
  | double d => d.plain
  | number text => text.toList
  | string s => Text.backslashQuoted '\'' s.toList

/-- A comparison with the blanks around it. -/
def Comparison.chars : Comparison → List Char
  | equal => " = ".toList
  | notEqual => " != ".toList
  | greater => " > ".toList
  | less => " < ".toList
  | greaterOrEqual => " >= ".toList
  | lessOrEqual => " <= ".toList

/-- A column. -/
def Column.chars (c : Column) : List Char :=
  propertyChars c.table c.name

mutual

/-- An expression. Joined expressions stand in parentheses; joining none gives a truth value. -/
def Expression.chars : Expression → List Char
  | .all [] => (Literal.boolean true).chars
  | .all (first :: rest) => '(' :: first.chars ++ Expression.joined " AND ".toList rest
  | .any [] => (Literal.boolean false).chars
  | .any (first :: rest) => '(' :: first.chars ++ Expression.joined " OR ".toList rest
  | .compare left comparison right => left.chars ++ comparison.chars ++ right.chars
  | .column c => c.chars
  | .literal value => value.chars

/-- Further expressions, each after the separator, and the closing parenthesis. -/
def Expression.joined (separator : List Char) : List Expression → List Char
  | [] => [')']
  | first :: rest => separator ++ first.chars ++ Expression.joined separator rest

end

/-- One element of the order. -/
def Ordering.chars (o : Ordering) : List Char :=
  o.column.chars ++ (if o.descending then " DESC" else " ASC").toList

/-- The name that a collection has in a statement. -/
def collectionChars (name : String) : List Char :=
  if isPlain name then name.toList else rootCollection.toList

/-- The columns to answer. -/
def columnsChars : Option (List Column) → List Char
  | none => ['*']
  | some columns => Text.separated ", ".toList (columns.map Column.chars)

/-- The condition of a statement; one that always holds is left out. -/
def conditionChars : Expression → List Char
  | .literal (.boolean true) => []
  | condition => " WHERE ".toList ++ condition.chars

/-- The order of a statement. -/
def orderChars : List Ordering → List Char
  | [] => []
  | order => " ORDER BY ".toList ++ Text.separated ", ".toList (order.map Ordering.chars)

/-- The limit of a statement. -/
def topChars : Option UInt32 → List Char
  | none => []
  | some n => "TOP ".toList ++ Nat.toDigits 10 n.toNat ++ [' ']

/-- The characters of a statement. -/
def Select.chars (s : Select) : List Char :=
  "SELECT ".toList ++ topChars s.top ++ columnsChars s.columns ++ " FROM ".toList ++
    collectionChars s.collection ++ ' ' :: s.aliasName.toList ++ conditionChars s.condition ++
    orderChars s.order

/-- The text of a statement. -/
def Select.text (s : Select) : String :=
  String.ofList s.chars

/-- The text of an expression. -/
def Expression.text (e : Expression) : String :=
  String.ofList e.chars

end EntityGateway.Sql
