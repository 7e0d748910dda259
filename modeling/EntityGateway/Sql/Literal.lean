import EntityGateway.Query.CompileError
import EntityGateway.Query.TypedText
import EntityGateway.Sql.Select

/-!
# Values in selections

How the values of conditions are written in the statements of the document store, which depends on
the type of the attribute they are compared with.
-/

namespace EntityGateway.Sql.Literal

/-- A value as a number. -/
def ofNumber? : Value → Option Literal
  | .integer n => some (.integer n)
  | .option code => some (.integer code.toInt64)
  | .double d => if d.isFinite then some (.double d) else none
  | .money amount => some (.number amount.text)
  | .decimal amount => some (.number amount.text)
  | _ => none

/-- A value as a literal of some kind. -/
def ofKind? : LiteralKind → Value → Option Literal
  | _, .null => some .null
  | .text, v => v.text?.map .string
  | .number, .string s => (numericText? s).map .number
  | .number, v => ofNumber? v
  | .boolean, .boolean b => some (.boolean b)
  | .boolean, .string s => (truthText? s).map .boolean
  | .boolean, _ => none
  | .untyped, .boolean b => some (.boolean b)
  | .untyped, .uuid u => some (.string u.text)
  | .untyped, .instant i => some (.string i.text)
  | .untyped, .string s => some (.string s)
  | .untyped, v => ofNumber? v

/-- The literal for a value that is compared with an attribute. -/
def ofValue (a : AttributeMetadata) (v : Value) : Except CompileError Literal :=
  match ofKind? a.type.literalKind v with
  | some literal => .ok literal
  | none => .error (.mismatch a v)

end EntityGateway.Sql.Literal
