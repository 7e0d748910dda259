import EntityGateway.OData.Options
import EntityGateway.Query.CompileError
import EntityGateway.Query.TypedText

/-!
# Values in filters

How the values of conditions are written in the filters of the remote service. What a value becomes
depends on where it stands: comparisons follow the type of the attribute, single and paired
arguments follow the value's own kind, lists hold texts, and searches need a text.
-/

namespace EntityGateway.OData

namespace Literal

/-- The literal that a value's own kind calls for. -/
def ofOwnKind? : Value → Option Literal
  | .null => some .null
  | .boolean b => some (.boolean b)
  | .double d => if d.isFinite then some (.raw (String.ofList d.plain)) else none
  | .integer n => some (.raw (Value.integerText n.toInt))
  | .option code => some (.raw (Value.integerText code.toInt))
  | .money amount => some (.raw amount.text)
  | .decimal amount => some (.raw amount.text)
  | .uuid u => some (.raw u.text)
  | .instant i => some (.raw i.text)
  | .string s => some (.string s)
  | .json _ => none

/-- A text as an identifier or an instant, if an attribute of the type has such values and the text
reads as one. -/
def ofTypedText? (type : AttributeType) (s : String) : Option Literal :=
  if type.isIdentifier then (Uuid.read? (Text.trim s)).map fun u => .raw u.text
  else if type = .dateTime then (Instant.read? (Text.trim s)).map fun i => .raw i.text
  else none

/-- The literal for a value that is compared with an attribute whose values are text. -/
def ofTextual? (type : AttributeType) : Value → Option Literal
  | .uuid u => some (if type.isFreeText then .string u.text else .raw u.text)
  | .instant i => some (if type.isFreeText then .string i.text else .raw i.text)
  | .string s => some ((ofTypedText? type s).getD (.string s))
  | v => v.text?.map .string

/-- The literal for a value other than null that is compared with an attribute of a type. -/
def ofTyped? (type : AttributeType) (v : Value) : Option Literal :=
  match type.literalKind, v with
  | .text, v => ofTextual? type v
  | .number, .string s => (numericText? s).map .raw
  | .number, .boolean _ => none
  | .number, .uuid _ => none
  | .number, .instant _ => none
  | .number, v => ofOwnKind? v
  | .boolean, .string s => (truthText? s).map .boolean
  | .boolean, .boolean b => some (.boolean b)
  | .boolean, _ => none
  | .untyped, v => ofOwnKind? v

/-- A literal, or the cause that the value does not fit the attribute. -/
def orMismatch (a : AttributeMetadata) (v : Value) : Option Literal → Except CompileError Literal
  | some literal => .ok literal
  | none => .error (.mismatch a v)

/-- The literal for a value that is compared with an attribute. -/
def ofComparison (a : AttributeMetadata) (v : Value) : Except CompileError Literal :=
  orMismatch a v (if v.isNull then some .null else ofTyped? a.type v)

/-- The literal for a value that a function is called with. -/
def ofArgument (a : AttributeMetadata) (v : Value) : Except CompileError Literal :=
  orMismatch a v (ofOwnKind? v)

/-- The literal for a value in a list. -/
def ofItem (a : AttributeMetadata) (v : Value) : Except CompileError Literal :=
  orMismatch a v (if v.isNull then some .null else v.text?.map .string)

end Literal

/-- The text that is searched for. -/
def searchText (a : AttributeMetadata) (v : Value) : Except CompileError String :=
  match v.text? with
  | some text => .ok text
  | none => .error (.mismatch a v)

end EntityGateway.OData
