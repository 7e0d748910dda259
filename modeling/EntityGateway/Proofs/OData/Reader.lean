import EntityGateway.OData.Printer
import EntityGateway.Proofs.BareText
import EntityGateway.Proofs.Scan

/-!
# Reading filters

A reader of the filters that the remote service is sent, by the precedence of their operators: `not`
binds tighter than `and`, which binds tighter than `or`. A comparison is looked for first, so that a
property may have the name of an operator or of a function.

A text does not tell the connective of a group of one item, and nothing else is lost:
`Expression.asRead` is what a text tells of a filter.
-/

namespace EntityGateway.OData

open Text

/-! ## What a text tells -/

/-- Any of some items as a text tells it: a single item has no connective. -/
def Expression.anyOf : List Expression → Expression
  | [item] => .all [item]
  | items => .any items

mutual

/-- A filter as its text tells it. -/
def Expression.asRead : Expression → Expression
  | .all items => .all (Expression.itemsAsRead items)
  | .any items => Expression.anyOf (Expression.itemsAsRead items)
  | .not item => .not item.asRead
  | .compare property comparison value => .compare property comparison value
  | .search function property value => .search function property value
  | .call function property arguments => .call function property arguments
  | .literal value => .literal value

/-- The items of a group as the text tells them. -/
def Expression.itemsAsRead : List Expression → List Expression
  | [] => []
  | first :: rest => first.asRead :: Expression.itemsAsRead rest

end

theorem Expression.itemsAsRead_eq_map (items : List Expression) :
    Expression.itemsAsRead items = items.map Expression.asRead := by
  induction items with
  | nil => rfl
  | cons first rest ih => rw [Expression.itemsAsRead, List.map_cons, ih]

/-! ## The reader -/

/-- Reads a property. -/
def readProperty? (cs : List Char) : Option (String × List Char) :=
  let (name, rest) := scanWhile Sql.isNamePart cs
  if isIdentifier (String.ofList name) then some (String.ofList name, rest) else none

/-- The comparisons that a text can hold. -/
def Comparison.every : List Comparison :=
  [.equal, .notEqual, .greater, .less, .greaterOrEqual, .lessOrEqual]

/-- Reads a comparison with the blanks around it. -/
def readComparison? (cs : List Char) : Option (Comparison × List Char) :=
  Comparison.every.findSome? fun comparison =>
    ((' ' :: comparison.name.toList ++ [' ']).isPrefixOf? cs).map fun rest => (comparison, rest)

/-- The literal that is written as a word without quotes. -/
def Literal.ofWord (word : List Char) : Literal :=
  if word = "null".toList then .null
  else if word = "true".toList then .boolean true
  else if word = "false".toList then .boolean false
  else .raw (String.ofList word)

/-- Reads a literal. -/
def readLiteral? (cs : List Char) : Option (Literal × List Char) :=
  match ['\''].isPrefixOf? cs with
  | some rest => (scanDoubled '\'' rest).map fun (body, rest) =>
      (.string (String.ofList body), rest)
  | none =>
    let (word, rest) := scanWhile isBarePart cs
    if word.isEmpty then none else some (.ofWord word, rest)

/-- Reads a comparison of a property with a literal. -/
def readCompare? (cs : List Char) : Option (Expression × List Char) := do
  let (property, rest) ← readProperty? cs
  let (comparison, rest) ← readComparison? rest
  let (value, rest) ← readLiteral? rest
  some (.compare property comparison value, rest)

/-- The searches that a text can hold. -/
def StringFunction.every : List StringFunction :=
  [.contains, .startsWith, .endsWith]

/-- Reads the name of a search and the opening parenthesis. -/
def readFunction? (cs : List Char) : Option (StringFunction × List Char) :=
  StringFunction.every.findSome? fun function =>
    ((function.name.toList ++ ['(']).isPrefixOf? cs).map fun rest => (function, rest)

/-- Reads a search in a property. -/
def readSearch? (cs : List Char) : Option (Expression × List Char) := do
  let (function, rest) ← readFunction? cs
  let (property, rest) ← readProperty? rest
  let rest ← ", ".toList.isPrefixOf? rest
  let (value, rest) ← readLiteral? rest
  let rest ← [')'].isPrefixOf? rest
  some (.search function property value, rest)

/-- Reads the items of a list and the closing bracket. -/
def readItems? (cs : List Char) : Option (List Literal × List Char) :=
  match [']'].isPrefixOf? cs with
  | some rest => some ([], rest)
  | none => do
    let (values, rest) ← scanSeparated readLiteral? [','] (cs.length + 1) cs
    let rest ← [']'].isPrefixOf? rest
    some (values, rest)

/-- Reads what a function of the platform is told besides the property. -/
def readArguments? (cs : List Char) : Option (Arguments × List Char) :=
  match ",PropertyValue=".toList.isPrefixOf? cs with
  | some rest => (readLiteral? rest).map fun (value, rest) => (.single value, rest)
  | none =>
    match ",PropertyValue1=".toList.isPrefixOf? cs with
    | some rest => do
      let (first, rest) ← readLiteral? rest
      let rest ← ",PropertyValue2=".toList.isPrefixOf? rest
      let (second, rest) ← readLiteral? rest
      some (.pair first second, rest)
    | none =>
      match ",PropertyValues=[".toList.isPrefixOf? cs with
      | some rest => (readItems? rest).map fun (values, rest) => (.list values, rest)
      | none => some (.none, cs)

/-- Reads a call of a function of the platform. -/
def readCall? (cs : List Char) : Option (Expression × List Char) := do
  let rest ← (platformNamespace.toList ++ ['.']).isPrefixOf? cs
  let (function, rest) := scanWhile (· != '(') rest
  let rest ← "(PropertyName='".toList.isPrefixOf? rest
  let (property, rest) ← scanDoubled '\'' rest
  let (arguments, rest) ← readArguments? rest
  let rest ← [')'].isPrefixOf? rest
  some (.call (String.ofList function) (String.ofList property) arguments, rest)

/-- Reads a truth value, which is what joining nothing gives. -/
def readTruth? (cs : List Char) : Option (Expression × List Char) :=
  match "true".toList.isPrefixOf? cs with
  | some rest => some (.all [], rest)
  | none => ("false".toList.isPrefixOf? cs).map fun rest => (.any [], rest)

/-- Reads a term that holds no other term. -/
def readAtom? (cs : List Char) : Option (Expression × List Char) :=
  readCompare? cs <|> readSearch? cs <|> readCall? cs <|> readTruth? cs

/-- What joins two terms. -/
inductive Connective where
  | and
  | or
  deriving DecidableEq

/-- A connective with the blanks around it. -/
def Connective.chars : Connective → List Char
  | and => " and ".toList
  | or => " or ".toList

/-- Reads a connective. -/
def readConnective? (cs : List Char) : Option (Connective × List Char) :=
  match Connective.and.chars.isPrefixOf? cs with
  | some rest => some (.and, rest)
  | none => (Connective.or.chars.isPrefixOf? cs).map fun rest => (.or, rest)

/-- Splits joined terms at each `or`. -/
def Expression.runs : Expression → List (Connective × Expression) → List (List Expression)
  | first, [] => [[first]]
  | first, (.or, next) :: others => [first] :: Expression.runs next others
  | first, (.and, next) :: others =>
    match Expression.runs next others with
    | [] => [[first]]
    | run :: more => (first :: run) :: more

/-- A run of terms between one `or` and the next. -/
def Expression.ofRun : List Expression → Expression
  | [item] => item
  | items => .all items

/-- Joined terms by precedence: `and` joins the terms of a run before `or` joins the runs. -/
def Expression.ofTerms (first : Expression) (others : List (Connective × Expression)) :
    Expression :=
  match Expression.runs first others with
  | [run] => .all run
  | runs => .any (runs.map Expression.ofRun)

mutual

/-- Reads a term: one that holds no other, a negated term, or joined terms in parentheses. A text is
never nested deeper than it is long, so its length will do for `fuel`. -/
def readTerm? : Nat → List Char → Option (Expression × List Char)
  | 0, _ => none
  | fuel + 1, cs =>
    match readAtom? cs with
    | some read => some read
    | none =>
      match "not ".toList.isPrefixOf? cs with
      | some rest => do
        let (item, rest) ← readTerm? fuel rest
        some (.not item, rest)
      | none => do
        let rest ← ['('].isPrefixOf? cs
        let (first, rest) ← readTerm? fuel rest
        let (others, rest) ← readLinks? fuel rest
        let rest ← [')'].isPrefixOf? rest
        some (.ofTerms first others, rest)

/-- Reads further terms, each behind a connective. -/
def readLinks? : Nat → List Char → Option (List (Connective × Expression) × List Char)
  | 0, _ => none
  | fuel + 1, cs =>
    match readConnective? cs with
    | none => some ([], cs)
    | some (connective, rest) => do
      let (item, rest) ← readTerm? fuel rest
      let (others, rest) ← readLinks? fuel rest
      some ((connective, item) :: others, rest)

end

/-- Reads a filter: a term, or joined terms without parentheses. -/
def readFilter? (text : String) : Option Expression := do
  let (first, rest) ← readTerm? text.toList.length text.toList
  let (others, rest) ← readLinks? (rest.length + 1) rest
  if rest.isEmpty then some (if others.isEmpty then first else .ofTerms first others) else none

end EntityGateway.OData
