import EntityGateway.Text.Quoted
import EntityGateway.Text.Separated

/-!
# Connections to the document store

How a database of the document store is reached, and the names of its parts in addresses and
signatures.
-/

namespace EntityGateway.DocumentStore

/-- How to reach a database. -/
structure Connection where
  /-- The address of the account. -/
  uri : String
  /-- The master key in Base64. -/
  key : String
  database : String
  deriving DecidableEq

/-- The kind of the resource that queries are sent to. -/
def resourceType : String := "docs"

namespace Connection

/-- The name of a collection within the account. -/
def resourceId (c : Connection) (collection : String) : String :=
  "dbs/" ++ c.database ++ "/colls/" ++ collection

/-- The address that queries against a collection are sent to. -/
def documentsUrl (c : Connection) (collection : String) : String :=
  Text.withoutSlashes c.uri ++ "/" ++ c.resourceId collection ++ "/" ++ resourceType

/-- A description of a connection that does not give the key away. -/
def describe (c : Connection) : String :=
  "Connection \x7b uri: " ++ Text.described c.uri ++ ", database: " ++ Text.described c.database ++
    ", .. \x7d"

end Connection

end EntityGateway.DocumentStore
