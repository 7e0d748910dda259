import EntityGateway.Json.Decode
import EntityGateway.Metadata.Basic

/-!
# Metadata as JSON
-/

namespace EntityGateway

/-- The JSON form of a type. -/
def AttributeType.toJson (t : AttributeType) : Json :=
  .string t.name

/-- Decodes a type. -/
def AttributeType.decode : Decoder AttributeType :=
  Decode.named AttributeType.ofName?

/-- The JSON form of the description of an attribute. -/
def AttributeMetadata.toJson (a : AttributeMetadata) : Json :=
  .object [
    ("logicalName", .string a.logicalName),
    ("externalName", .string a.externalName),
    ("type", a.type.toJson)]

/-- Decodes the description of an attribute. -/
def AttributeMetadata.decode : Decoder AttributeMetadata :=
  Decode.structure ["logicalName", "externalName", "type"] fun fields =>
    AttributeMetadata.mk <$> fields.required "logicalName" Decode.text
      <*> fields.required "externalName" Decode.text
      <*> fields.required "type" AttributeType.decode

/-- The JSON form of the description of an entity. -/
def EntityMetadata.toJson (m : EntityMetadata) : Json :=
  .object [
    ("logicalName", .string m.logicalName),
    ("externalName", .string m.externalName),
    ("externalCollectionName", .string m.externalCollectionName),
    ("primaryIdAttribute", .string m.primaryIdAttribute),
    ("attributes", .array (m.attributes.map AttributeMetadata.toJson))]

/-- Decodes the description of an entity. -/
def EntityMetadata.decode : Decoder EntityMetadata :=
  Decode.structure ["logicalName", "externalName", "externalCollectionName", "primaryIdAttribute",
      "attributes"] fun fields =>
    EntityMetadata.mk <$> fields.required "logicalName" Decode.text
      <*> fields.required "externalName" Decode.text
      <*> fields.required "externalCollectionName" Decode.text
      <*> fields.required "primaryIdAttribute" Decode.text
      <*> fields.required "attributes" (Decode.list AttributeMetadata.decode)

/-- The JSON form of metadata. -/
def Metadata.toJson (m : Metadata) : Json :=
  .object [
    ("entities", .object (m.entities.entries.map fun entry => (entry.1, entry.2.toJson)))]

/-- Decodes metadata. The names that entities are kept under need not be their logical names. -/
def Metadata.decode : Decoder Metadata :=
  Decode.structure ["entities"] fun fields =>
    Metadata.mk <$> fields.required "entities" (Decode.nameMap EntityMetadata.decode)

end EntityGateway
