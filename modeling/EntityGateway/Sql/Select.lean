import EntityGateway.Number.Layout

/-!
# Selections

The statements that the document store understands, as trees: one collection under an alias, the
properties to answer, a condition, and an order.
-/

namespace EntityGateway.Sql

/-- A value in a statement. -/
inductive Literal where
  | null
  | boolean (value : Bool)
  | integer (value : Int64)
  | double (value : Double)
  /-- A text that is known to be a number. -/
  | number (text : String)
  | string (value : String)
  deriving DecidableEq

/-- A comparison of two values. -/
inductive Comparison where
  | equal
  | notEqual
  | greater
  | less
  | greaterOrEqual
  | lessOrEqual
  deriving DecidableEq, Repr

/-- The alias that compiled statements use. -/
def defaultAlias : String := "a"

/-- A property of the documents under an alias. -/
structure Column where
  table : String := defaultAlias
  name : String
  deriving DecidableEq

/-- A condition, or a part of one. -/
inductive Expression where
  | all (items : List Expression)
  | any (items : List Expression)
  | compare (left : Expression) (comparison : Comparison) (right : Expression)
  | column (column : Column)
  | literal (value : Literal)

namespace Expression

/-- The condition that always holds. -/
def always : Expression := .literal (.boolean true)

/-- The condition that never holds. -/
def never : Expression := .literal (.boolean false)

end Expression

/-- One column that the answer is ordered by. -/
structure Ordering where
  column : Column
  descending : Bool
  deriving DecidableEq

/-- A statement. -/
structure Select where
  top : Option UInt32 := none
  /-- The columns to answer; all of them if absent. -/
  columns : Option (List Column)
  collection : String
  aliasName : String := defaultAlias
  condition : Expression := .always
  order : List Ordering := []

end EntityGateway.Sql
