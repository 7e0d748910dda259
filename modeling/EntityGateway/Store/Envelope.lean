import EntityGateway.Record
import EntityGateway.Text.Quoted

/-!
# Envelopes

What the bodies of the stores' answers hold besides records, and the access tokens that the remote
service asks for. Fields that a store leaves out are taken for absent.
-/

namespace EntityGateway.Store

/-- The answer of the document store to a query. -/
structure DocumentEnvelope where
  resourceId : Option String
  count : Option Int64
  documents : List Record

/-- Decodes an answer of the document store. -/
def DocumentEnvelope.decode : Decoder DocumentEnvelope :=
  Decode.structure ["_rid", "_count", "Documents"] fun fields =>
    DocumentEnvelope.mk
      <$> fields.withDefault "_rid" (Decode.nullable Decode.text) none
      <*> fields.withDefault "_count" (Decode.nullable Decode.int64) none
      <*> fields.withDefault "Documents" (Decode.list Record.decode) []

/-- The answer of the remote service to a request for a collection. -/
structure CollectionEnvelope where
  context : Option String
  count : Option Int64
  /-- Where the next page is found. -/
  nextLink : Option String
  value : List Record

/-- Decodes an answer of the remote service. -/
def CollectionEnvelope.decode : Decoder CollectionEnvelope :=
  Decode.structure ["@odata.context", "@odata.count", "@odata.nextLink", "value"] fun fields =>
    CollectionEnvelope.mk
      <$> fields.withDefault "@odata.context" (Decode.nullable Decode.text) none
      <*> fields.withDefault "@odata.count" (Decode.nullable Decode.int64) none
      <*> fields.withDefault "@odata.nextLink" (Decode.nullable Decode.text) none
      <*> fields.withDefault "value" (Decode.list Record.decode) []

/-- A token that gives access to the remote service. -/
structure AccessToken where
  accessToken : String
  /-- The root of the service that the token is valid for. -/
  resource : String
  tokenType : Option String
  deriving DecidableEq

/-- Decodes a token. -/
def AccessToken.decode : Decoder AccessToken :=
  Decode.structure ["access_token", "resource", "token_type"] fun fields =>
    AccessToken.mk
      <$> fields.required "access_token" Decode.text
      <*> fields.required "resource" Decode.text
      <*> fields.withDefault "token_type" (Decode.nullable Decode.text) none

/-- A description of a token that does not give it away. -/
def AccessToken.describe (t : AccessToken) : String :=
  let type :=
    match t.tokenType with
    | some type => "Some(" ++ Text.described type ++ ")"
    | none => "None"
  "Token \x7b resource: " ++ Text.described t.resource ++ ", token_type: " ++ type ++ ", .. \x7d"

end EntityGateway.Store
