/-!
# Attribute types

The types that attributes can have on the platform the queries come from, and how the values of each
are written in a query.
-/

namespace EntityGateway

/-- The type of an attribute. -/
inductive AttributeType where
  | boolean
  | customer
  | dateTime
  | decimal
  | double
  | integer
  | lookup
  | memo
  | money
  | owner
  | partyList
  | picklist
  | state
  | status
  | string
  | uniqueidentifier
  | calendarRules
  | virtual
  | bigInt
  | managedProperty
  | entityName
  deriving DecidableEq, Repr

/-- How a value is written in a query. -/
inductive LiteralKind where
  /-- As a quoted string. -/
  | text
  /-- As a bare number. -/
  | number
  /-- As a bare truth value. -/
  | boolean
  /-- As the value itself wants it. -/
  | untyped
  deriving DecidableEq, Repr

namespace AttributeType

/-- The name of a type. -/
def name : AttributeType → String
  | boolean => "Boolean"
  | customer => "Customer"
  | dateTime => "DateTime"
  | decimal => "Decimal"
  | double => "Double"
  | integer => "Integer"
  | lookup => "Lookup"
  | memo => "Memo"
  | money => "Money"
  | owner => "Owner"
  | partyList => "PartyList"
  | picklist => "Picklist"
  | state => "State"
  | status => "Status"
  | string => "String"
  | uniqueidentifier => "Uniqueidentifier"
  | calendarRules => "CalendarRules"
  | virtual => "Virtual"
  | bigInt => "BigInt"
  | managedProperty => "ManagedProperty"
  | entityName => "EntityName"

/-- All types. -/
def all : List AttributeType := [
  .boolean, .customer, .dateTime, .decimal, .double, .integer, .lookup, .memo, .money, .owner,
  .partyList, .picklist, .state, .status, .string, .uniqueidentifier, .calendarRules, .virtual,
  .bigInt, .managedProperty, .entityName]

/-- The type of a name. -/
def ofName? (s : String) : Option AttributeType :=
  all.find? fun type => type.name = s

/-- No type is missing from the list of all. -/
theorem mem_all (type : AttributeType) : type ∈ all := by
  cases type <;> decide

/-- How values compared with attributes of a type are written. -/
def literalKind : AttributeType → LiteralKind
  | string | memo | entityName | uniqueidentifier | lookup | customer | owner | dateTime => .text
  | decimal | double | integer | money | picklist | state | status | bigInt => .number
  | boolean => .boolean
  | partyList | calendarRules | virtual | managedProperty => .untyped

/-- The type's values are arbitrary text, never identifiers or instants. -/
def isFreeText : AttributeType → Bool
  | string | memo | entityName => true
  | _ => false

/-- The type's values are identifiers of records. -/
def isIdentifier : AttributeType → Bool
  | uniqueidentifier | lookup | customer | owner => true
  | _ => false

end AttributeType

/-- The name of a kind of literal. -/
def LiteralKind.name : LiteralKind → String
  | text => "Text"
  | number => "Number"
  | boolean => "Boolean"
  | untyped => "Untyped"

end EntityGateway
