import EntityGateway.Metadata.AttributeType
import EntityGateway.NameMap

/-!
# Metadata

The description of virtual entities: their attributes, each with a logical name on the platform and
an external name in the store, and the collection that holds the records. Queries speak of logical
names and stores of external names; looking one up takes the first attribute that has it.
-/

namespace EntityGateway

/-- The description of an attribute. -/
structure AttributeMetadata where
  logicalName : String
  externalName : String
  type : AttributeType
  deriving DecidableEq

/-- The description of an entity. -/
structure EntityMetadata where
  logicalName : String
  externalName : String
  externalCollectionName : String
  /-- The logical name of the attribute that identifies a record. -/
  primaryIdAttribute : String
  attributes : List AttributeMetadata
  deriving DecidableEq

/-- The descriptions of all entities, by logical name. -/
structure Metadata where
  entities : NameMap EntityMetadata

namespace Metadata

/-- No entities. -/
def empty : Metadata := ⟨.empty⟩

/-- The description of an entity. -/
def entity? (m : Metadata) (logicalName : String) : Option EntityMetadata :=
  m.entities.find? logicalName

/-- Adds the description of an entity under its logical name. -/
def insert (m : Metadata) (e : EntityMetadata) : Metadata :=
  ⟨m.entities.insert e.logicalName e⟩

/-- The descriptions of some entities; of those with the same logical name the last one counts. -/
def ofEntities (entities : List EntityMetadata) : Metadata :=
  entities.foldl insert empty

end Metadata

/-- A name that no attribute of an entity has. -/
structure UnknownAttribute where
  entity : String
  attributeName : String
  deriving DecidableEq

/-- The message about an unknown name. -/
def UnknownAttribute.message (e : UnknownAttribute) : String :=
  "attribute '" ++ e.attributeName ++ "' not found on entity '" ++ e.entity ++ "'"

namespace EntityMetadata

/-- The first attribute with a logical name. -/
def attribute? (m : EntityMetadata) (logicalName : String) : Option AttributeMetadata :=
  m.attributes.find? fun a => a.logicalName = logicalName

/-- The first attribute with an external name. -/
def externalAttribute? (m : EntityMetadata) (externalName : String) : Option AttributeMetadata :=
  m.attributes.find? fun a => a.externalName = externalName

/-- The attribute with a logical name. -/
def attributeNamed (m : EntityMetadata) (logicalName : String) :
    Except UnknownAttribute AttributeMetadata :=
  match m.attribute? logicalName with
  | some a => .ok a
  | none => .error ⟨m.logicalName, logicalName⟩

/-- The external name of an attribute. -/
def toExternal (m : EntityMetadata) (logicalName : String) : Except UnknownAttribute String :=
  (m.attributeNamed logicalName).map AttributeMetadata.externalName

/-- The logical name of an attribute. -/
def toLogical (m : EntityMetadata) (externalName : String) : Except UnknownAttribute String :=
  match m.externalAttribute? externalName with
  | some a => .ok a.logicalName
  | none => .error ⟨m.logicalName, externalName⟩

/-- The attribute that identifies a record. -/
def primaryId (m : EntityMetadata) : Except UnknownAttribute AttributeMetadata :=
  m.attributeNamed m.primaryIdAttribute

end EntityMetadata

end EntityGateway
