import EntityGateway.Query.CompileError
import EntityGateway.Store.StoreError

/-!
# Why a call to the service failed
-/

namespace EntityGateway

/-- The cause for which a call failed. -/
inductive ServiceError where
  /-- No such entity is described. -/
  | unknownEntity (logicalName : String)
  | uncompilable (cause : CompileError)
  | store (cause : StoreError)
  /-- The address of the request would be too long for the remote service. -/
  | tooLong (length : Nat) (limit : UInt64)

namespace ServiceError

/-- The message about a cause. -/
def message : ServiceError → String
  | unknownEntity logicalName => "No metadata is configured for entity '" ++ logicalName ++ "'."
  | uncompilable cause => "Unable to translate query: " ++ cause.message
  | store cause => cause.message
  | tooLong length limit =>
    "The request URL is " ++ String.ofList (Nat.toDigits 10 length) ++
      " characters long; the limit is " ++ String.ofList (Nat.toDigits 10 limit.toNat) ++ "."

/-- The message and those of the causes behind it. -/
def chain : ServiceError → List String
  | uncompilable cause => [(uncompilable cause).message, cause.message]
  | store cause => cause.chain
  | e => [e.message]

end ServiceError

end EntityGateway
