import EntityGateway.Entity
import EntityGateway.Metadata.Coercion

/-!
# Records

A record is what a store answers: raw values by external names. Reading one goes through the
attributes of the metadata in their order and makes an entity of it. Values that no attribute is
described for are passed over, and attributes that the record has no value for are left out. The
value of the primary attribute becomes the identifier of the entity.
-/

namespace EntityGateway

/-- A record as a store answers it, by external names. -/
abbrev Record := NameMap Json

namespace Record

/-- Decodes a record, which is always written as an object. -/
def decode : Decoder Record :=
  Decode.nameMap Decode.json

/-- The JSON form of a record. -/
def toJson (r : Record) : Json :=
  .object r.entries

end Record

/-- Which values the types of attributes apply to. -/
inductive CoercionMode where
  /-- Only the identifier of a record is read by its type, all other values are copied. -/
  | primaryIdOnly
  /-- Every value is read by the type of its attribute. -/
  | allAttributes
  deriving DecidableEq, Repr

namespace Entity

/-- Takes the value of one attribute over from a record. -/
def takeAttribute (m : EntityMetadata) (mode : CoercionMode) (r : Record) (e : Entity)
    (a : AttributeMetadata) : Except UnreadableValue Entity :=
  match r.find? a.externalName with
  | none => .ok e
  | some raw =>
    if a.logicalName = m.primaryIdAttribute then
      match a.coerceIdentifier raw with
      | .error fault => .error fault
      | .ok none => .ok { e with attributes := e.attributes.insert a.logicalName .null }
      | .ok (some id) =>
        .ok { e with id, attributes := e.attributes.insert a.logicalName (.uuid id) }
    else
      match mode with
      | .primaryIdOnly =>
        .ok { e with attributes := e.attributes.insert a.logicalName (Value.ofJson raw) }
      | .allAttributes =>
        match a.coerce raw with
        | .error fault => .error fault
        | .ok value => .ok { e with attributes := e.attributes.insert a.logicalName value }

/-- Takes the values of some attributes over, in order. -/
def takeAttributes (m : EntityMetadata) (mode : CoercionMode) (r : Record) (e : Entity) :
    List AttributeMetadata → Except UnreadableValue Entity
  | [] => .ok e
  | a :: rest =>
    match takeAttribute m mode r e a with
    | .error fault => .error fault
    | .ok e' => takeAttributes m mode r e' rest

/-- The entity of a record. -/
def ofRecord (m : EntityMetadata) (mode : CoercionMode) (r : Record) :
    Except UnreadableValue Entity :=
  takeAttributes m mode r (.new m.logicalName) m.attributes

/-- The entities of some records. The first record that cannot be read fails them all. -/
def ofRecords (m : EntityMetadata) (mode : CoercionMode) :
    List Record → Except UnreadableValue (List Entity)
  | [] => .ok []
  | r :: rest =>
    match ofRecord m mode r with
    | .error fault => .error fault
    | .ok e =>
      match ofRecords m mode rest with
      | .error fault => .error fault
      | .ok es => .ok (e :: es)

end Entity

end EntityGateway
