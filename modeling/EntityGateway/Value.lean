import EntityGateway.Json.Decode
import EntityGateway.Number.DecimalReader
import EntityGateway.Time.InstantReader
import EntityGateway.Uuid

/-!
# Typed values

The values that conditions compare attributes with, and that the attributes of a record have. A
value read from JSON never has its type guessed from the content of a string: a string stays one
until an attribute's type says otherwise. Identifiers, instants, options and amounts of money only
arise where an attribute has such a type.
-/

namespace EntityGateway

/-- A typed value. -/
inductive Value where
  | null
  | boolean (value : Bool)
  | integer (value : Int64)
  | double (value : Double)
  | uuid (value : Uuid)
  | instant (value : Instant)
  | string (value : String)
  /-- The code of one of a set of options. -/
  | option (code : Int32)
  | money (amount : Decimal)
  | decimal (amount : Decimal)
  /-- An array or an object. -/
  | json (raw : Json)
  deriving Inhabited

namespace Value

/-- The value is null. -/
def isNull : Value → Bool
  | null => true
  | _ => false

/-- A short name for the kind of a value, as messages use it. -/
def kind : Value → String
  | null => "null"
  | boolean _ => "boolean"
  | integer _ => "integer"
  | double _ => "double"
  | uuid _ => "uuid"
  | instant _ => "datetime"
  | string _ => "string"
  | option _ => "option set value"
  | money _ => "money"
  | decimal _ => "decimal"
  | json _ => "json"

/-- An integer in decimal digits. -/
def integerText (n : Int) : String :=
  String.ofList (if n < 0 then '-' :: Nat.toDigits 10 n.natAbs else Nat.toDigits 10 n.natAbs)

/-- The text of a value without any quotes. Null, arrays and objects have none. -/
def text? : Value → Option String
  | null => none
  | boolean true => some "true"
  | boolean false => some "false"
  | integer n => some (integerText n.toInt)
  | double d => some (String.ofList d.plain)
  | uuid u => some u.text
  | instant i => some i.text
  | string s => some s
  | option code => some (integerText code.toInt)
  | money amount => some amount.text
  | decimal amount => some amount.text
  | json _ => none

/-- The JSON form of a value. What JSON has no type for becomes a string, and a double that is no
number becomes null. -/
def toJson : Value → Json
  | null => .null
  | boolean b => .boolean b
  | integer n => .integer n.toInt
  | double d => if d.isFinite then .double d else .null
  | uuid u => .string u.text
  | instant i => .string i.text
  | string s => .string s
  | option code => .integer code.toInt
  | money amount => .string amount.text
  | decimal amount => .string amount.text
  | json raw => raw

/-- The value of an integer of JSON. Those beyond sixty-three bits are carried as decimals. -/
def ofInteger (n : Int) : Value :=
  if n < Nat.pow 2 63 then integer (Int64.ofInt n)
  else decimal (Decimal.ofUInt64 (UInt64.ofNat n.toNat))

/-- The value that a JSON value stands for when no type is known. -/
def ofJson : Json → Value
  | .null => null
  | .boolean b => boolean b
  | .integer n => ofInteger n
  | .double d => double d
  | .string s => string s
  | .array items => json (.array items)
  | .object members => json (.object members)

/-- Decodes a value, without reference to any type. -/
def decode : Decoder Value := fun d => ofJson <$> Decode.json d

end Value

end EntityGateway
