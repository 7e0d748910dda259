import EntityGateway.Metadata.Basic
import EntityGateway.Query.Basic

/-!
# Why a query cannot be compiled

The causes for which a query is rejected before anything is sent, and the message about each.
-/

namespace EntityGateway

/-- How many values a condition must carry. -/
inductive Arity where
  /-- The values are not looked at. -/
  | ignored
  | exactly (n : Nat)
  | atLeast (n : Nat)
  deriving DecidableEq, Repr

namespace Arity

/-- So many values will do. -/
def accepts : Arity → Nat → Bool
  | ignored, _ => true
  | exactly n, count => count = n
  | atLeast n, count => n ≤ count

/-- The arity in words. -/
def describe : Arity → String
  | ignored => "any number of"
  | exactly n => "exactly " ++ toString n
  | atLeast n => "at least " ++ toString n

end Arity

/-- The cause for which a query is rejected. -/
inductive CompileError where
  | unknownAttribute (name : UnknownAttribute)
  /-- The dialect has no such operator. -/
  | unsupportedOperator (operator : ConditionOperator)
  /-- Nothing is known about how the operator would be written. -/
  | operatorNotImplemented (operator : ConditionOperator)
  | unsupportedPattern (text : String)
  | invalidLogicalOperator (name : String)
  | unexpectedValueCount (operator : ConditionOperator) (expected : Arity) (found : Nat)
  | typeMismatch (attributeName : String) (type : AttributeType) (valueKind : String)
  deriving DecidableEq

namespace CompileError

/-- The message about a cause. -/
def message : CompileError → String
  | unknownAttribute name => name.message
  | unsupportedOperator operator =>
    "Condition operator '" ++ operator.name ++ "' is not supported by this data source."
  | operatorNotImplemented operator =>
    "Condition operator '" ++ operator.name ++ "' is not implemented."
  | unsupportedPattern text =>
    "Pattern value " ++ text ++ " must begin or end with a '%' wildcard."
  | invalidLogicalOperator name =>
    "Filter operator '" ++ name ++ "' is not implemented."
  | unexpectedValueCount operator expected found =>
    "Condition operator '" ++ operator.name ++ "' expects " ++ expected.describe ++
      " value(s) but " ++ toString found ++ " were supplied."
  | typeMismatch attributeName type valueKind =>
    "A " ++ valueKind ++ " value cannot be compared with attribute '" ++ attributeName ++
      "' of type " ++ type.name ++ "."

/-- The cause that a value does not fit the type of an attribute. -/
def mismatch (a : AttributeMetadata) (v : Value) : CompileError :=
  .typeMismatch a.logicalName a.type v.kind

end CompileError

end EntityGateway
