import EntityGateway.DocumentStore.Connection
import EntityGateway.Metadata.Basic
import EntityGateway.RemoteService.Connection

/-!
# Configurations

Settings are what the configuration file says: a store and how to reach it, the description of the
entities, and a limit. A secret among the settings is written down or names a variable of the
environment. A configuration is what becomes of settings once the secret is known and the settings
that were left out have their usual values.
-/

namespace EntityGateway

/-- A value that should not be known to everybody. -/
inductive Secret where
  /-- The value itself. -/
  | plain (value : String)
  /-- The value of a variable of the environment. -/
  | fromVariable (name : String)
  deriving DecidableEq

/-- A description of a secret that does not give the value away. -/
def Secret.describe : Secret → String
  | plain _ => "Plain(<redacted>)"
  | fromVariable name => "FromEnvironment \x7b variable: " ++ Text.described name ++ " \x7d"

/-- How to reach the document store. -/
structure DocumentStoreSettings where
  uri : String
  key : Secret
  database : String
  deriving DecidableEq

/-- How to reach the remote service. -/
structure RemoteServiceSettings where
  resource : String
  username : String
  password : Secret
  tokenEndpoint : Option String
  clientId : Option String
  deriving DecidableEq

/-- Which store holds the records. -/
inductive DataSourceSettings where
  | documentStore (settings : DocumentStoreSettings)
  | remoteService (settings : RemoteServiceSettings)
  deriving DecidableEq

/-- What the configuration file says. -/
structure Settings where
  version : UInt32
  dataSource : DataSourceSettings
  metadata : Metadata
  /-- The longest address that the remote service accepts, without its root. -/
  maxUrlLength : UInt64

/-- The version of the configuration file. -/
def currentVersion : UInt32 := 1

/-- The limit for addresses unless another one is configured. -/
def defaultMaxUrlLength : UInt64 := 2048

/-- The kinds of stores. -/
inductive DataSourceKind where
  | documentStore
  | remoteService
  deriving DecidableEq, Repr

/-- The store of a new configuration, of which only the variable with the secret is known. -/
def DataSourceSettings.initial : DataSourceKind → DataSourceSettings
  | .documentStore =>
    .documentStore {
      uri := ""
      key := .fromVariable "VIRTUAL_ENTITY_DOCUMENT_STORE_KEY"
      database := "" }
  | .remoteService =>
    .remoteService {
      resource := ""
      username := ""
      password := .fromVariable "VIRTUAL_ENTITY_REMOTE_SERVICE_PASSWORD"
      tokenEndpoint := none
      clientId := none }

/-- A new configuration without entities. -/
def Settings.initial (kind : DataSourceKind) : Settings where
  version := currentVersion
  dataSource := .initial kind
  metadata := .empty
  maxUrlLength := defaultMaxUrlLength

/-- How to reach the store, with the secret. -/
inductive DataSource where
  | documentStore (connection : DocumentStore.Connection)
  | remoteService (connection : RemoteService.Connection)
  deriving DecidableEq

/-- All there is to know to serve requests. -/
structure Configuration where
  dataSource : DataSource
  metadata : Metadata
  maxUrlLength : UInt64

/-! ## Resolving secrets -/

/-- A variable of the environment that is not set. -/
structure UnsetVariable where
  name : String
  deriving DecidableEq

/-- The value of a secret. -/
def Secret.resolve (environment : String → Option String) :
    Secret → Except UnsetVariable String
  | plain value => .ok value
  | fromVariable name =>
    match environment name with
    | some value => .ok value
    | none => .error ⟨name⟩

/-- The variable that a secret is read from. -/
def Secret.variable? : Secret → Option String
  | plain _ => none
  | fromVariable name => some name

/-- The secret among the settings. -/
def DataSourceSettings.secret : DataSourceSettings → Secret
  | documentStore settings => settings.key
  | remoteService settings => settings.password

/-- The store once the secret is known. -/
def DataSourceSettings.withSecret (secret : String) : DataSourceSettings → DataSource
  | documentStore settings => .documentStore ⟨settings.uri, secret, settings.database⟩
  | remoteService settings =>
    .remoteService {
      resource := settings.resource
      username := settings.username
      password := secret
      tokenEndpoint := settings.tokenEndpoint.getD RemoteService.defaultTokenEndpoint
      clientId := settings.clientId.getD RemoteService.defaultClientId }

/-- The configuration that settings stand for. -/
def Settings.resolve (s : Settings) (environment : String → Option String) :
    Except UnsetVariable Configuration :=
  (s.dataSource.secret.resolve environment).map fun secret =>
    ⟨s.dataSource.withSecret secret, s.metadata, s.maxUrlLength⟩

end EntityGateway
