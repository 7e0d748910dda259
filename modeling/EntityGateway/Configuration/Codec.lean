import EntityGateway.Configuration.Basic
import EntityGateway.Json.Decode
import EntityGateway.Metadata.Codec

/-!
# Settings as JSON

The JSON form of settings. The limit for addresses is left out at its usual value, and optional
settings are left out when there are none.
-/

namespace EntityGateway

/-- The JSON form of a secret. -/
def Secret.toJson : Secret → Json
  | plain value => .string value
  | fromVariable name => .object [("variable", .string name)]

/-- A secret of a JSON value, of which it is known whether the name of the variable stands twice. -/
def Secret.ofJson? (isRepeated : Bool) : Json → Option Secret
  | .string value => some (plain value)
  | .object members =>
    match valueUnder? "variable" members with
    | some (.string name) => if isRepeated then none else some (fromVariable name)
    | _ => none
  | _ => none

/-- The document is an object in which a name stands twice. -/
def Document.repeats (name : String) : Document → Bool
  | .object _ members => members.count name > 1
  | _ => false

/-- Decodes a secret. The value is read as a whole first, so what is wrong with its shape only shows
at its end. -/
def Secret.decode : Decoder Secret := fun d =>
  Decode.json d >>= fun raw =>
    match Secret.ofJson? (d.repeats "variable") raw with
    | some secret => .value secret
    | none => .mismatchedWhole

/-- The JSON form of the settings for the document store. -/
def DocumentStoreSettings.toJson (s : DocumentStoreSettings) : Json :=
  .object [
    ("uri", .string s.uri),
    ("key", s.key.toJson),
    ("database", .string s.database)]

/-- Decodes the settings for the document store. -/
def DocumentStoreSettings.decode : Decoder DocumentStoreSettings :=
  Decode.structure ["uri", "key", "database"] fun fields =>
    DocumentStoreSettings.mk <$> fields.required "uri" Decode.text
      <*> fields.required "key" Secret.decode
      <*> fields.required "database" Decode.text

/-- A member for a text that may be missing. -/
def textMember? (name : String) (text : Option String) : List (String × Json) :=
  text.toList.map fun t => (name, .string t)

/-- The JSON form of the settings for the remote service. -/
def RemoteServiceSettings.toJson (s : RemoteServiceSettings) : Json :=
  .object ([
    ("resource", .string s.resource),
    ("username", .string s.username),
    ("password", s.password.toJson)] ++
    textMember? "tokenEndpoint" s.tokenEndpoint ++ textMember? "clientId" s.clientId)

/-- Decodes the settings for the remote service. -/
def RemoteServiceSettings.decode : Decoder RemoteServiceSettings :=
  Decode.structure ["resource", "username", "password", "tokenEndpoint", "clientId"] fun fields =>
    RemoteServiceSettings.mk <$> fields.required "resource" Decode.text
      <*> fields.required "username" Decode.text
      <*> fields.required "password" Secret.decode
      <*> fields.withDefault "tokenEndpoint" (Decode.nullable Decode.text) none
      <*> fields.withDefault "clientId" (Decode.nullable Decode.text) none

/-- The JSON form of the settings for a store. -/
def DataSourceSettings.toJson : DataSourceSettings → Json
  | documentStore settings => .object [("documentStore", settings.toJson)]
  | remoteService settings => .object [("remoteService", settings.toJson)]

/-- Decodes the settings for a store. -/
def DataSourceSettings.decode : Decoder DataSourceSettings :=
  Decode.choice fun
    | .name place s =>
      if s = "documentStore" ∨ s = "remoteService" then .mismatchedWhole else .mismatched place
    | .member place s value =>
      if s = "documentStore" then documentStore <$> DocumentStoreSettings.decode value
      else if s = "remoteService" then remoteService <$> RemoteServiceSettings.decode value
      else .mismatched place

/-- The JSON form of settings. -/
def Settings.toJson (s : Settings) : Json :=
  .object ([
    ("version", .integer s.version.toNat),
    ("dataSource", s.dataSource.toJson),
    ("metadata", s.metadata.toJson)] ++
    if s.maxUrlLength = defaultMaxUrlLength then []
    else [("maxUrlLength", .integer s.maxUrlLength.toNat)])

/-- Decodes settings. -/
def Settings.decode : Decoder Settings :=
  Decode.structure ["version", "dataSource", "metadata", "maxUrlLength"] fun fields =>
    Settings.mk <$> fields.required "version" Decode.uint32
      <*> fields.required "dataSource" DataSourceSettings.decode
      <*> fields.withDefault "metadata" Metadata.decode .empty
      <*> fields.withDefault "maxUrlLength" Decode.uint64 defaultMaxUrlLength

end EntityGateway
