import EntityGateway.Value

/-!
# Entities

What callers get: records whose attributes have logical names and typed values, in pages. A page
says whether there is another one and how to ask for it.
-/

namespace EntityGateway

/-- A record, by the logical name of its entity and its identifier. -/
structure EntityReference where
  logicalName : String
  id : Uuid
  deriving DecidableEq

/-- A record with its attributes. -/
structure Entity where
  logicalName : String
  id : Uuid
  attributes : NameMap Value

/-- A page of records. -/
structure EntityCollection where
  entities : List Entity
  moreRecords : Bool
  /-- How many records there are in all; `-1` if the store did not say. -/
  totalRecordCount : Int64
  /-- What the store wants back when the next page is asked for. -/
  pagingCookie : Option String

namespace EntityReference

/-- The JSON form of a reference. -/
def toJson (r : EntityReference) : Json :=
  .object [
    ("logicalName", .string r.logicalName),
    ("id", .string r.id.text)]

/-- Decodes a reference. -/
def decode : Decoder EntityReference :=
  Decode.structure ["logicalName", "id"] fun fields =>
    EntityReference.mk <$> fields.required "logicalName" Decode.text
      <*> fields.required "id" (Decode.ofText Uuid.read?)

end EntityReference

namespace Entity

/-- A record without attributes and with the zero identifier. -/
def new (logicalName : String) : Entity :=
  ⟨logicalName, .zero, .empty⟩

/-- The JSON form of a record. -/
def toJson (e : Entity) : Json :=
  .object [
    ("logicalName", .string e.logicalName),
    ("id", .string e.id.text),
    ("attributes", .object (e.attributes.entries.map fun entry => (entry.1, entry.2.toJson)))]

/-- Decodes a record. -/
def decode : Decoder Entity :=
  Decode.structure ["logicalName", "id", "attributes"] fun fields =>
    Entity.mk <$> fields.required "logicalName" Decode.text
      <*> fields.required "id" (Decode.ofText Uuid.read?)
      <*> fields.required "attributes" (Decode.nameMap Value.decode)

end Entity

namespace EntityCollection

/-- The page of some records when nothing else is known. -/
def ofEntities (entities : List Entity) : EntityCollection :=
  ⟨entities, false, -1, none⟩

/-- The JSON form of a page. -/
def toJson (c : EntityCollection) : Json :=
  .object [
    ("entities", .array (c.entities.map Entity.toJson)),
    ("moreRecords", .boolean c.moreRecords),
    ("totalRecordCount", .integer c.totalRecordCount.toInt),
    ("pagingCookie", .ofText? c.pagingCookie)]

/-- Decodes a page. -/
def decode : Decoder EntityCollection :=
  Decode.structure ["entities", "moreRecords", "totalRecordCount", "pagingCookie"] fun fields =>
    EntityCollection.mk <$> fields.required "entities" (Decode.list Entity.decode)
      <*> fields.required "moreRecords" Decode.boolean
      <*> fields.required "totalRecordCount" Decode.int64
      <*> fields.nullIfUnnamed "pagingCookie" Decode.text

end EntityCollection

end EntityGateway
