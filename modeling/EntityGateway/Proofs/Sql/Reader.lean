import EntityGateway.Proofs.BareText
import EntityGateway.Proofs.Scan
import EntityGateway.Sql.Printer

/-!
# Reading selections

A reader of the statements that the document store is sent, from left to right and by the grammar

    SELECT [TOP n] (*|a.p, ...) FROM coll a [WHERE e] [ORDER BY a.p ASC|DESC, ...]

where a property that is no plain identifier stands in brackets and quotes, and an expression is a
truth value, a comparison of a property with a literal, or a group in parentheses.

A text does not tell everything about the statement it was written for, and `Select.asRead` is what
it tells. A number is known by its text only, a group without items is a truth value, the connective
of a group of one item is not told, and a collection whose name is not plain is called `root`.
-/

namespace EntityGateway.Sql

open Text

/-! ## What a text tells -/

/-- A literal as its text tells it: a number is known by its text. -/
def Literal.asRead : Literal → Literal
  | integer n => .number (Value.integerText n.toInt)
  | double d => .number (String.ofList d.plain)
  | other => other

/-- A group as its text tells it: one without items is the truth value that joining none gives, and
one of a single item has no connective. -/
def Expression.grouped (join : List Expression → Expression) (ofNone : Expression) :
    List Expression → Expression
  | [] => ofNone
  | [item] => .all [item]
  | items => join items

mutual

/-- An expression as its text tells it. -/
def Expression.asRead : Expression → Expression
  | .all items => Expression.grouped .all .always (Expression.itemsAsRead items)
  | .any items => Expression.grouped .any .never (Expression.itemsAsRead items)
  | .compare left comparison right => .compare left.asRead comparison right.asRead
  | .column c => .column c
  | .literal value => .literal value.asRead

/-- The items of a group as the text tells them. -/
def Expression.itemsAsRead : List Expression → List Expression
  | [] => []
  | first :: rest => first.asRead :: Expression.itemsAsRead rest

end

/-- A statement as its text tells it. -/
def Select.asRead (s : Select) : Select :=
  { s with
    collection := if isPlain s.collection then s.collection else rootCollection
    condition := s.condition.asRead }

theorem Expression.itemsAsRead_eq_map (items : List Expression) :
    Expression.itemsAsRead items = items.map Expression.asRead := by
  induction items with
  | nil => rfl
  | cons first rest ih => rw [Expression.itemsAsRead, List.map_cons, ih]

/-! ## The reader -/

/-- Reads a name behind the alias: bare after a point, or in brackets and quotes. -/
def readName? (cs : List Char) : Option (String × List Char) :=
  match ['.'].isPrefixOf? cs with
  | some rest =>
    let (name, rest) := scanWhile isNamePart rest
    if isPlain (String.ofList name) then some (String.ofList name, rest) else none
  | none => do
    let rest ← "[\"".toList.isPrefixOf? cs
    let (name, rest) ← scanBackslashed '"' rest
    let rest ← [']'].isPrefixOf? rest
    some (String.ofList name, rest)

/-- Reads a property of the documents under the alias. -/
def readColumn? (cs : List Char) : Option (Column × List Char) := do
  let rest ← defaultAlias.toList.isPrefixOf? cs
  let (name, rest) ← readName? rest
  some (⟨defaultAlias, name⟩, rest)

/-- The comparisons that a text can hold. -/
def Comparison.every : List Comparison :=
  [.equal, .notEqual, .greater, .less, .greaterOrEqual, .lessOrEqual]

/-- Reads a comparison. -/
def readComparison? (cs : List Char) : Option (Comparison × List Char) :=
  Comparison.every.findSome? fun comparison =>
    (comparison.chars.isPrefixOf? cs).map fun rest => (comparison, rest)

/-- Reads a number: the longest text of characters of numbers. -/
def readNumber? (cs : List Char) : Option (Literal × List Char) :=
  let (digits, rest) := scanWhile isNumeralPart cs
  if digits.isEmpty then none else some (.number (String.ofList digits), rest)

/-- Reads a literal. -/
def readLiteral? (cs : List Char) : Option (Literal × List Char) :=
  match ['\''].isPrefixOf? cs with
  | some rest => (scanBackslashed '\'' rest).map fun (body, rest) =>
      (.string (String.ofList body), rest)
  | none =>
    match "null".toList.isPrefixOf? cs with
    | some rest => some (.null, rest)
    | none =>
      match "true".toList.isPrefixOf? cs with
      | some rest => some (.boolean true, rest)
      | none =>
        match "false".toList.isPrefixOf? cs with
        | some rest => some (.boolean false, rest)
        | none => readNumber? cs

/-- Reads a comparison of a property with a literal. -/
def readCompare? (cs : List Char) : Option (Expression × List Char) := do
  let (column, rest) ← readColumn? cs
  let (comparison, rest) ← readComparison? rest
  let (literal, rest) ← readLiteral? rest
  some (.compare (.column column) comparison (.literal literal), rest)

/-- Reads a truth value. -/
def readTruth? (cs : List Char) : Option (Expression × List Char) :=
  match "true".toList.isPrefixOf? cs with
  | some rest => some (.always, rest)
  | none => ("false".toList.isPrefixOf? cs).map fun rest => (.never, rest)

mutual

/-- Reads an expression. A text is never nested deeper than it is long, so its length will do for
`fuel`. -/
def readExpression? : Nat → List Char → Option (Expression × List Char)
  | 0, _ => none
  | fuel + 1, cs =>
    match ['('].isPrefixOf? cs with
    | none => readTruth? cs <|> readCompare? cs
    | some rest => do
      let (first, rest) ← readExpression? fuel rest
      match readOthers? " AND ".toList fuel rest with
      | some (others, rest) => some (.all (first :: others), rest)
      | none => do
        let (others, rest) ← readOthers? " OR ".toList fuel rest
        some (.any (first :: others), rest)

/-- Reads the further items of a group, each behind the separator, and the closing parenthesis. -/
def readOthers? (separator : List Char) : Nat → List Char → Option (List Expression × List Char)
  | 0, _ => none
  | fuel + 1, cs =>
    match [')'].isPrefixOf? cs with
    | some rest => some ([], rest)
    | none => do
      let rest ← separator.isPrefixOf? cs
      let (first, rest) ← readExpression? fuel rest
      let (others, rest) ← readOthers? separator fuel rest
      some (first :: others, rest)

end

/-- Reads the limit, if there is one. -/
def readTop? (cs : List Char) : Option (Option UInt32 × List Char) :=
  match "TOP ".toList.isPrefixOf? cs with
  | none => some (none, cs)
  | some rest => do
    let (digits, rest) := scanWhile Char.isDigit rest
    let n := Nat.ofDigitChars 10 digits 0
    let rest ← [' '].isPrefixOf? rest
    if digits.isEmpty ∨ UInt32.size ≤ n then none else some (some (UInt32.ofNat n), rest)

/-- Reads the columns to answer. -/
def readColumns? (cs : List Char) : Option (Option (List Column) × List Char) :=
  match ['*'].isPrefixOf? cs with
  | some rest => some (none, rest)
  | none => do
    let (columns, rest) ← scanSeparated readColumn? ", ".toList (cs.length + 1) cs
    some (some columns, rest)

/-- Reads the condition. A statement without one has the condition that always holds. -/
def readCondition? (cs : List Char) : Option (Expression × List Char) :=
  match " WHERE ".toList.isPrefixOf? cs with
  | none => some (.always, cs)
  | some rest => readExpression? rest.length rest

/-- Reads one element of the order. -/
def readOrdering? (cs : List Char) : Option (Ordering × List Char) := do
  let (column, rest) ← readColumn? cs
  match " ASC".toList.isPrefixOf? rest with
  | some rest => some (⟨column, false⟩, rest)
  | none => do
    let rest ← " DESC".toList.isPrefixOf? rest
    some (⟨column, true⟩, rest)

/-- Reads the order. -/
def readOrder? (cs : List Char) : Option (List Ordering × List Char) :=
  match " ORDER BY ".toList.isPrefixOf? cs with
  | none => some ([], cs)
  | some rest => scanSeparated readOrdering? ", ".toList (rest.length + 1) rest

/-- Reads a statement. -/
def readSelect? (text : String) : Option Select := do
  let rest ← "SELECT ".toList.isPrefixOf? text.toList
  let (top, rest) ← readTop? rest
  let (columns, rest) ← readColumns? rest
  let rest ← " FROM ".toList.isPrefixOf? rest
  let (collection, rest) := scanWhile isNamePart rest
  let rest ← (' ' :: defaultAlias.toList).isPrefixOf? rest
  let (condition, rest) ← readCondition? rest
  let (order, rest) ← readOrder? rest
  if isPlain (String.ofList collection) ∧ rest.isEmpty then
    some { top, columns, collection := String.ofList collection, condition, order }
  else none

end EntityGateway.Sql
