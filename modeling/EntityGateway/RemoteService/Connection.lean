import EntityGateway.Text.Quoted
import EntityGateway.Text.Separated
import EntityGateway.Uuid

/-!
# Connections to the remote service

How the remote service and its token endpoint are reached, and the paths of collections and records.
-/

namespace EntityGateway.RemoteService

/-- How to reach the service, and who asks. -/
structure Connection where
  /-- The root of the service. -/
  resource : String
  username : String
  password : String
  /-- The address that access tokens are asked for at. -/
  tokenEndpoint : String
  clientId : String
  deriving DecidableEq

/-- The token endpoint unless another one is configured. -/
def defaultTokenEndpoint : String := "https://login.microsoftonline.com/common/oauth2/token"

/-- The client that asks for tokens unless another one is configured. -/
def defaultClientId : String := "2ad88395-b77d-4561-9441-d0e40824f9bc"

/-- A description of a connection that does not give the password away. -/
def Connection.describe (c : Connection) : String :=
  "Connection \x7b resource: " ++ Text.described c.resource ++
    ", username: " ++ Text.described c.username ++
    ", token_endpoint: " ++ Text.described c.tokenEndpoint ++
    ", client_id: " ++ Text.described c.clientId ++ ", .. \x7d"

/-- The path below which all collections are. -/
def apiPath : String := "/api/data/v9.0"

/-- The path of a request for a collection, from the root of the service. -/
def collectionPath (collection queryString : String) : String :=
  let path := apiPath ++ "/" ++ collection
  if queryString.isEmpty then path else path ++ "?" ++ queryString

/-- The path of a record, from the root of the service. -/
def entityPath (collection : String) (id : Uuid) : String :=
  apiPath ++ "/" ++ collection ++ "(" ++ id.text ++ ")"

end EntityGateway.RemoteService
