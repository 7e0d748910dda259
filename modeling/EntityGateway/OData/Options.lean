/-!
# Query options

The options of a request for a collection of the remote service, as trees: the properties to answer,
a limit, the continuation of an earlier page, an order, and a filter. Filters compare properties
with literals, search in strings, or call functions of the platform that the service runs on.
-/

namespace EntityGateway.OData

/-- A value in a filter. -/
inductive Literal where
  | null
  | boolean (value : Bool)
  /-- The text of a number, an identifier or an instant, which is written bare. -/
  | raw (text : String)
  | string (value : String)
  deriving DecidableEq

/-- A comparison of a property with a value. -/
inductive Comparison where
  | equal
  | notEqual
  | greater
  | less
  | greaterOrEqual
  | lessOrEqual
  deriving DecidableEq, Repr

/-- A search for a text in a property. -/
inductive StringFunction where
  | contains
  | startsWith
  | endsWith
  deriving DecidableEq, Repr

/-- What a function of the platform is told besides the property. -/
inductive Arguments where
  | none
  | single (value : Literal)
  | pair (first second : Literal)
  | list (values : List Literal)
  deriving DecidableEq

/-- A filter, or a part of one. -/
inductive Expression where
  | all (items : List Expression)
  | any (items : List Expression)
  | not (item : Expression)
  | compare (property : String) (comparison : Comparison) (value : Literal)
  | search (function : StringFunction) (property : String) (value : Literal)
  /-- A call of a function of the platform. -/
  | call (function : String) (property : String) (arguments : Arguments)
  | literal (value : Literal)

/-- One property that the answer is ordered by. -/
structure Ordering where
  property : String
  descending : Bool
  deriving DecidableEq

/-- The continuation of an earlier page. -/
structure SkipToken where
  pageNumber : UInt32
  /-- What the service gave out with the page before. -/
  cookie : String
  deriving DecidableEq

/-- The options of a request. -/
structure Options where
  /-- The properties to answer; all of them if there are none. -/
  select : List String := []
  top : Option UInt32 := none
  skipToken : Option SkipToken := none
  order : List Ordering := []
  filter : Option Expression := none

end EntityGateway.OData
