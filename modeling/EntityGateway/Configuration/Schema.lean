import EntityGateway.Json.Printer
import EntityGateway.Metadata.AttributeType

/-!
# The schema of the configuration file

A description of the configuration file for tools that check or complete such files while they are
being written.
-/

namespace EntityGateway.Schema

/-- The address that names the dialect of the schema. -/
def dialect : String := "http" ++ "://json-schema.org/draft-07/schema#"

/-- The type of a value. -/
def ofType (name : String) : String × Json :=
  ("type", .string name)

/-- The text that explains a part. -/
def described (text : String) : String × Json :=
  ("description", .string text)

/-- A reference to a definition. -/
def reference (name : String) : String × Json :=
  ("$ref", .string ("#/definitions/" ++ name))

/-- A reference to a definition next to other members. -/
def referenceAmong (name : String) : String × Json :=
  ("allOf", .array [.object [reference name]])

/-- The members that an object must have. -/
def required (names : List String) : String × Json :=
  ("required", .array (names.map .string))

/-- The members that an object may have. -/
def properties (members : List (String × List (String × Json))) : String × Json :=
  ("properties", .object (members.map fun member => (member.1, .object member.2)))

/-- A natural number of some width. -/
def natural (format : String) : List (String × Json) :=
  [ofType "integer", ("format", .string format), ("minimum", .double (.nearest false 0 1))]

/-- A text that may be missing. -/
def optionalText : List (String × Json) :=
  [("type", .array [.string "string", .string "null"])]

/-- A choice that is written as an object with one member. -/
def alternative (name definition : String) : Json :=
  .object [
    ofType "object",
    required [name],
    properties [(name, [reference definition])],
    ("additionalProperties", .boolean false)]

/-- The definition of the choice between stores. -/
def dataSourceSettings : List (String × Json) := [
  described "How to reach the external store.",
  ("oneOf", .array [
    alternative "documentStore" "DocumentStoreSettings",
    alternative "remoteService" "RemoteServiceSettings"])]

/-- The definition of the settings for the document store. -/
def documentStoreSettings : List (String × Json) := [
  described "Document store connection settings.",
  ofType "object",
  required ["database", "key", "uri"],
  properties [
    ("uri", [
      described "Account endpoint, e.g. `https://<account>.documents.azure.com:443/`.",
      ofType "string"]),
    ("key", [described "Base64-encoded master key.", referenceAmong "Secret"]),
    ("database", [ofType "string"])]]

/-- The definition of secrets. -/
def secret : List (String × Json) := [
  described <| "A value that is either written into the configuration or read from an " ++
    "environment variable when the runtime configuration is made.",
  ("anyOf", .array [
    .object [ofType "string"],
    .object [
      ofType "object",
      required ["variable"],
      properties [("variable", [ofType "string"])]]])]

/-- The definition of the settings for the remote service. -/
def remoteServiceSettings : List (String × Json) := [
  described "Remote service connection settings.",
  ofType "object",
  required ["password", "resource", "username"],
  properties [
    ("resource", [
      described <| "Root URL of the service, also the resource the access token is requested " ++
        "for.",
      ofType "string"]),
    ("username", [ofType "string"]),
    ("password", [reference "Secret"]),
    ("tokenEndpoint", optionalText),
    ("clientId", optionalText)]]

/-- The definition of metadata. -/
def metadata : List (String × Json) := [
  described "Metadata information.",
  ofType "object",
  required ["entities"],
  properties [("entities", [reference "EntitiesInfo"])]]

/-- The definition of the map of entities. -/
def entities : List (String × Json) := [
  described "Mapping from an entity logical name to its metadata.",
  ofType "object",
  ("additionalProperties", .object [reference "EntityMetadata"])]

/-- The definition of the description of an entity. -/
def entityMetadata : List (String × Json) := [
  described "Information about a virtual entity and its external counterpart.",
  ofType "object",
  required [
    "attributes", "externalCollectionName", "externalName", "logicalName", "primaryIdAttribute"],
  properties [
    ("logicalName", [ofType "string"]),
    ("externalName", [ofType "string"]),
    ("externalCollectionName", [ofType "string"]),
    ("primaryIdAttribute", [
      described "Logical name of the attribute that identifies a record.",
      ofType "string"]),
    ("attributes", [
      ofType "array",
      ("items", .object [reference "AttributeMetadata"])])]]

/-- The definition of the description of an attribute. -/
def attributeMetadata : List (String × Json) := [
  described "Information about one attribute of a virtual entity.",
  ofType "object",
  required ["externalName", "logicalName", "type"],
  properties [
    ("logicalName", [ofType "string"]),
    ("externalName", [ofType "string"]),
    ("type", [reference "AttributeType"])]]

/-- The definition of the types of attributes. -/
def attributeType : List (String × Json) := [
  described "The attribute types of the host platform.",
  ofType "string",
  ("enum", .array (AttributeType.all.map fun type => .string type.name))]

/-- The schema of the configuration file. -/
def configurationFile : Json :=
  .object [
    ("$schema", .string dialect),
    ("title", .string "ParsedConfiguration"),
    described <| "Initial configuration, just enough to reach an external store and describe " ++
      "the entities it holds.",
    ofType "object",
    required ["dataSource", "version"],
    properties [
      ("version", natural "uint32"),
      ("dataSource", [reference "DataSourceSettings"]),
      ("metadata", [
        ("default", .object [("entities", .object [])]),
        referenceAmong "Metadata"]),
      ("maxUrlLength",
        described "Longest relative URL the remote service accepts." :: natural "uint")],
    ("definitions", .object [
      ("DataSourceSettings", .object dataSourceSettings),
      ("DocumentStoreSettings", .object documentStoreSettings),
      ("Secret", .object secret),
      ("RemoteServiceSettings", .object remoteServiceSettings),
      ("Metadata", .object metadata),
      ("EntitiesInfo", .object entities),
      ("EntityMetadata", .object entityMetadata),
      ("AttributeMetadata", .object attributeMetadata),
      ("AttributeType", .object attributeType)])]

/-- The text of the schema. -/
def text : String := configurationFile.indented

end EntityGateway.Schema
