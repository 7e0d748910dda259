import EntityGateway.Http.Message
import EntityGateway.Metadata.Coercion
import EntityGateway.Json.Decode

/-!
# Why a store gave no answer
-/

namespace EntityGateway

/-- The cause for which a store gave no answer. -/
inductive StoreError where
  /-- The token endpoint refused. -/
  | authentication (status : Http.Status) (body : String)
  /-- The store refused. -/
  | refused (status : Http.Status) (body : String)
  /-- The request could not be sent, or there was no response. -/
  | unanswered
  /-- The body of the response is not what it should be. -/
  | invalidResponse (kind : FaultKind)
  /-- The key of the document store cannot be read. -/
  | invalidKey
  | unreadable (value : UnreadableValue)

namespace StoreError

/-- The message about a cause. -/
def message : StoreError → String
  | authentication status body => "token request failed with status " ++ status.text ++ ": " ++ body
  | refused status body => "request failed with status " ++ status.text ++ ": " ++ body
  | unanswered => "unable to send request"
  | invalidResponse _ => "unexpected response body"
  | invalidKey => "the document store key is not valid base64"
  | unreadable value => "unable to materialize record: " ++ value.message

/-- The message and those of the causes behind it. -/
def chain : StoreError → List String
  | unreadable value => [(unreadable value).message, value.message]
  | e => [e.message]

end StoreError

/-- What a response is read as. There may be none. -/
def Store.reading {α : Type} (read : Http.Response → Except StoreError α) :
    Option Http.Response → Except StoreError α
  | none => .error .unanswered
  | some response => read response

end EntityGateway
