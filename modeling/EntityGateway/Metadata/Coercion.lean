import EntityGateway.Json.Printer
import EntityGateway.Metadata.Basic
import EntityGateway.Value

/-!
# Coercion

What a store answers is JSON without types. Coercion makes a typed value of it, as the type of an
attribute demands: options, identifiers, instants and amounts of money are recognised, the values of
all other types are copied. Null is null for every type.
-/

namespace EntityGateway

/-- A value that an attribute cannot have. -/
structure UnreadableValue where
  /-- The logical name of the attribute. -/
  attributeName : String
  expected : AttributeType
  value : Json

/-- The message about an unreadable value. -/
def UnreadableValue.message (e : UnreadableValue) : String :=
  "value " ++ e.value.compact ++ " of attribute '" ++ e.attributeName ++ "' cannot be read as " ++
    e.expected.name

namespace AttributeMetadata

/-- The code of an option: an integer of thirty-two bits. -/
def optionCode? : Json → Option Int32
  | .integer n =>
    if -(Nat.pow 2 31 : Int) ≤ n ∧ n < Nat.pow 2 31 then some (Int32.ofInt n) else none
  | _ => none

/-- An amount of money: a number, or a text that reads as one. -/
def amount? : Json → Option Decimal
  | .integer n => Decimal.read? (Json.integer n).compact
  | .double d => Decimal.read? (Json.double d).compact
  | .string s => Decimal.read? s
  | _ => none

/-- A value that a text stands for. -/
def ofText? {α : Type} (read? : String → Option α) : Json → Option α
  | .string s => read? s
  | _ => none

/-- The value of an attribute, if the raw value fits the attribute's type. -/
def coerced? (a : AttributeMetadata) (raw : Json) : Option Value :=
  match raw with
  | .null => some .null
  | raw =>
    match a.type with
    | .picklist => (optionCode? raw).map .option
    | .uniqueidentifier => (ofText? Uuid.read? raw).map .uuid
    | .dateTime => (ofText? Instant.readLenient? raw).map .instant
    | .money => (amount? raw).map .money
    | _ => some (Value.ofJson raw)

/-- The value of an attribute. -/
def coerce (a : AttributeMetadata) (raw : Json) : Except UnreadableValue Value :=
  match a.coerced? raw with
  | some value => .ok value
  | none => .error ⟨a.logicalName, a.type, raw⟩

/-- The identifier of a record. A record may come without one. -/
def coerceIdentifier (a : AttributeMetadata) (raw : Json) :
    Except UnreadableValue (Option Uuid) :=
  match raw with
  | .null => .ok none
  | raw =>
    match ofText? Uuid.read? raw with
    | some id => .ok (some id)
    | none => .error ⟨a.logicalName, .uniqueidentifier, raw⟩

end AttributeMetadata

end EntityGateway
