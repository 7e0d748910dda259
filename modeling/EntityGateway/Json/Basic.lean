import EntityGateway.Number.Layout
import EntityGateway.NameMap

/-!
# JSON values

A JSON value as the stores and the callers exchange it. Numbers are of two kinds: integers between
`-2 ^ 63` and `2 ^ 64 - 1` are exact, every other number is a double, so that `1` and `1.0` are
different values. The members of an object that was read are in the order of their names, each name
once; members that this library writes itself may be in any order.
-/

namespace EntityGateway

/-- A JSON value. -/
inductive Json where
  | null
  | boolean (value : Bool)
  | integer (value : Int)
  | double (value : Double)
  | string (value : String)
  | array (items : List Json)
  | object (members : List (String × Json))
  deriving Inhabited

namespace Json

/-- The member of an object. -/
def member? (name : String) : Json → Option Json
  | object members => valueUnder? name members
  | _ => none

/-- A text or null. -/
def ofText? (text : Option String) : Json :=
  match text with
  | some t => .string t
  | none => .null

/-- A number without a point. -/
def ofNat (n : Nat) : Json := .integer n

end Json

end EntityGateway
