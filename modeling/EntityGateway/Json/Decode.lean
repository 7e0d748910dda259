import EntityGateway.Json.Reader

/-!
# Decoding documents

A decoder makes a value of some type out of a document, or says where and why that fails. Of several
faults the one that comes first in the text counts, so that a reader of the text from front to back
would stop at the same place.

Structures are written as objects or, with their fields in a fixed order, as arrays. Members that a
structure does not know are passed over, even where they have no value; a field that occurs twice is
a fault. Choices are written as a name or as an object with one member.
-/

namespace EntityGateway

/-- The two ways in which a text fails to be what it should be. -/
inductive FaultKind where
  /-- The text breaks a rule of notation. -/
  | malformed
  /-- The text is well formed, but of the wrong shape. -/
  | mismatched
  deriving DecidableEq, Repr

/-- Why decoding failed, and where: a place as in `EntityGateway.Document`. A fault that only shows
once a whole part has been read has no place of its own; it is placed at what follows the part. -/
structure Fault where
  kind : FaultKind
  place : Option Nat
  deriving DecidableEq

/-- Gives a place to a fault that has none. -/
def Fault.placedAt (f : Fault) (place : Nat) : Fault :=
  { f with place := some (f.place.getD place) }

/-- The outcome of decoding. -/
inductive Decoded (α : Type) where
  | value (a : α)
  | fault (f : Fault)

namespace Decoded

variable {α β : Type}

/-- Goes on with the value. -/
def bind (x : Decoded α) (f : α → Decoded β) : Decoded β :=
  match x with
  | value a => f a
  | fault e => fault e

instance : Monad Decoded where
  pure := value
  bind := bind

/-- The value, if there is one. -/
def toOption : Decoded α → Option α
  | value a => some a
  | fault _ => none

/-- The text is no JSON from this place on. -/
def malformed (place : Nat) : Decoded α :=
  fault ⟨.malformed, some place⟩

/-- What is at this place has the wrong shape. -/
def mismatched (place : Nat) : Decoded α :=
  fault ⟨.mismatched, some place⟩

/-- What comes before this place has the wrong shape as a whole. -/
def mismatchedWhole : Decoded α :=
  fault ⟨.mismatched, none⟩

/-- Gives a place to a fault that has none. -/
def placedAt (place : Nat) : Decoded α → Decoded α
  | value a => value a
  | fault e => fault (e.placedAt place)

end Decoded

/-- A way to make values out of documents. -/
abbrev Decoder (α : Type) := Document → Decoded α

namespace Decode

variable {α : Type}

/-- The fault of a document that is not of the expected shape. An array or object shows at once that
it is not; all else is read first. -/
def mismatch (d : Document) : Decoded α :=
  match d with
  | .string _ (.error flaw) | .broken _ flaw => .malformed flaw.reading
  | d => .mismatched d.place

/-- A string. -/
def text : Decoder String
  | .string _ (.ok s) => .value s
  | d => mismatch d

/-- A truth value. -/
def boolean : Decoder Bool
  | .boolean _ b => .value b
  | d => mismatch d

/-- An integer between two bounds. -/
def integerIn (least greatest : Int) : Decoder Int
  | .integer place n =>
    if least ≤ n ∧ n ≤ greatest then .value n else .mismatched place
  | d => mismatch d

/-- An integer of sixty-four bits with a sign. -/
def int64 (d : Document) : Decoded Int64 :=
  Int64.ofInt <$> integerIn (-(Nat.pow 2 63 : Int)) (Nat.pow 2 63 - 1) d

/-- A natural number of thirty-two bits. -/
def uint32 (d : Document) : Decoded UInt32 :=
  (fun n => UInt32.ofNat n.toNat) <$> integerIn 0 (Nat.pow 2 32 - 1) d

/-- A natural number of sixty-four bits. -/
def uint64 (d : Document) : Decoded UInt64 :=
  (fun n => UInt64.ofNat n.toNat) <$> integerIn 0 (Nat.pow 2 64 - 1) d

/-- A value that a text stands for. -/
def ofText (read? : String → Option α) : Decoder α
  | .string place (.ok s) =>
    match read? s with
    | some a => .value a
    | none => .mismatched place
  | d => mismatch d

/-- A value or null. -/
def nullable (decode : Decoder α) : Decoder (Option α)
  | .null _ => .value none
  | d => some <$> decode d

/-- Every item. -/
def items (decode : Decoder α) : Items → Decoded (List α)
  | .closed _ => .value []
  | .broken place | .tooDeep place _ => .malformed place
  | .cons item rest => do
    let first ← (decode item).placedAt rest.place
    let others ← items decode rest
    return first :: others

/-- An array of values. -/
def list (decode : Decoder α) : Decoder (List α)
  | .array _ found => items decode found
  | d => mismatch d

/-- Every member with its name. -/
def members (decode : Decoder α) : Members → Decoded (List (String × α))
  | .closed _ => .value []
  | .broken place | .tooDeep place _ => .malformed place
  | .cons _ (.error flaw) _ _ _ _ => .malformed flaw.reading
  | .cons _ (.ok name) _ value next rest => do
    let first ← (decode value).placedAt next
    let others ← members decode rest
    return (name, first) :: others

/-- An object as a map from names. Of members with the same name the last one counts. -/
def nameMap (decode : Decoder α) : Decoder (NameMap α)
  | .object _ found => NameMap.ofList <$> members decode found
  | d => mismatch d

mutual

/-- Any value. -/
def json : Decoder Json
  | .null _ => .value .null
  | .boolean _ b => .value (.boolean b)
  | .integer _ n => .value (.integer n)
  | .double _ d => .value (.double d)
  | .string _ (.ok s) => .value (.string s)
  | .string _ (.error flaw) | .broken _ flaw => .malformed flaw.reading
  | .array _ found => .array <$> jsonItems found
  | .object _ found => (fun entries => .object (sortEntries entries)) <$> jsonMembers found

/-- Any items. -/
def jsonItems : Items → Decoded (List Json)
  | .closed _ => .value []
  | .broken place | .tooDeep place _ => .malformed place
  | .cons item rest => do
    let first ← json item
    let others ← jsonItems rest
    return first :: others

/-- Any members. -/
def jsonMembers : Members → Decoded (List (String × Json))
  | .closed _ => .value []
  | .broken place | .tooDeep place _ => .malformed place
  | .cons _ (.error flaw) _ _ _ _ => .malformed flaw.reading
  | .cons _ (.ok name) _ value _ rest => do
    let first ← json value
    let others ← jsonMembers rest
    return (name, first) :: others

end

end Decode

/-! ## Structures -/

/-- What was found of some fields of a structure: their values, or a fault with the place of the
member or item in which it shows. -/
inductive Found (α : Type) where
  | value (a : α)
  | fault (part : Nat) (f : Fault)

namespace Found

variable {α β : Type}

/-- The outcome of decoding a member or item. -/
def inPart (part : Nat) : Decoded α → Found α
  | .value a => value a
  | .fault f => fault part f

/-- The outcome without the part in which it showed. -/
def decoded : Found α → Decoded α
  | value a => .value a
  | fault _ f => .fault f

/-- Applies a function to the value. -/
def map (f : α → β) : Found α → Found β
  | value a => value (f a)
  | fault part e => fault part e

/-- Applies a function to a value. Of two faults the one in the earlier part counts, whichever field
was asked for first. -/
def seq : Found (α → β) → Found α → Found β
  | value f, value a => value (f a)
  | fault part e, value _ => fault part e
  | value _, fault part e => fault part e
  | fault part e, fault part' e' => if part < part' then fault part' e' else fault part e

instance : Applicative Found where
  pure := value
  map := map
  seq f x := seq f (x ())

end Found

/-- A second member of a name is a fault, which shows at its colon. -/
def Members.unrepeated (name : String) : Members → Found Unit
  | cons place found colon _ _ rest =>
    if found.is name then .fault place ⟨.mismatched, some colon⟩ else rest.unrepeated name
  | _ => .value ()

/-- The member of a name, decoded. There must be no second one. -/
def Members.find {α : Type} (name : String) (decode : Decoder α) : Members → Found (Option α)
  | cons place found _ value next rest =>
    if found.is name then
      (fun a _ => some a) <$> Found.inPart place ((decode value).placedAt next)
        <*> rest.unrepeated name
    else rest.find name decode
  | _ => .value none

/-- Passes over the members that have none of these names, to the end. -/
def Members.passOthers (names : List String) : Members → Found Unit
  | closed _ => .value ()
  | broken place | tooDeep place _ => .fault place ⟨.malformed, some place⟩
  | cons place (.error flaw) _ _ _ _ => .fault place ⟨.malformed, some flaw.reading⟩
  | cons place (.ok name) _ value _ rest =>
    if name ∈ names then rest.passOthers names
    else
      match value.impasse? with
      | some stop => .fault place ⟨.malformed, some stop⟩
      | none => rest.passOthers names

/-- The fault of a missing member, which shows at the end. -/
def Members.lacking {α : Type} : Members → Found α
  | closed place => .fault place ⟨.mismatched, some place⟩
  | broken place | tooDeep place _ => .fault place ⟨.malformed, some place⟩
  | cons _ _ _ _ _ rest => rest.lacking

/-- The item at a position, decoded. -/
def Items.find {α : Type} (position : Nat) (decode : Decoder α) (items : Items) :
    Found (Option α) :=
  match items.get? position with
  | none => .value none
  | some item =>
    some <$> Found.inPart item.place ((decode item).placedAt (items.following position))

/-- There must be no more items than this. -/
def Items.atMost : Nat → Items → Found Unit
  | _, closed _ => .value ()
  | count + 1, cons _ rest => rest.atMost count
  | _, items => .fault items.place ⟨.malformed, some items.place⟩

/-- The fault of a missing item, which shows at the end. -/
def Items.lacking {α : Type} : Items → Found α
  | closed place => .fault place ⟨.mismatched, some place⟩
  | broken place | tooDeep place _ => .fault place ⟨.malformed, some place⟩
  | cons _ rest => rest.lacking

/-- A structure as it is written, with the names of its fields in their order. -/
inductive Fields where
  | named (names : List String) (members : Members)
  | listed (names : List String) (items : Items)

namespace Fields

variable {α : Type}

/-- A field that may be missing. -/
def optional (fields : Fields) (name : String) (decode : Decoder α) : Found (Option α) :=
  match fields with
  | named _ members => members.find name decode
  | listed names items => items.find (names.idxOf name) decode

/-- The fault of a missing field. -/
def lacking : Fields → Found α
  | named _ members => members.lacking
  | listed _ items => items.lacking

/-- A field that must not be missing. -/
def required (fields : Fields) (name : String) (decode : Decoder α) : Found α :=
  match fields.optional name decode with
  | .value (some a) => .value a
  | .value none => fields.lacking
  | .fault part f => .fault part f

/-- A field with a value for when it is missing. -/
def withDefault (fields : Fields) (name : String) (decode : Decoder α) (default : α) : Found α :=
  (fun found => found.getD default) <$> fields.optional name decode

/-- A field that may be null. As a member it may also be missing; as an item it may not. -/
def nullIfUnnamed (fields : Fields) (name : String) (decode : Decoder α) : Found (Option α) :=
  match fields with
  | named .. => fields.withDefault name (Decode.nullable decode) none
  | listed .. => fields.required name (Decode.nullable decode)

/-- What else there is to check of a structure. -/
def nothingElse : Fields → Found Unit
  | named names members => members.passOthers names
  | listed names items => items.atMost names.length

/-- A structure of what was found of its fields. -/
def complete (fields : Fields) (found : Found α) : Decoded α :=
  ((fun a _ => a) <$> found <*> fields.nothingElse).decoded

end Fields

/-- Decodes a structure with fields of these names. -/
def Decode.structure {α : Type} (names : List String) (decode : Fields → Found α) : Decoder α
  | .object _ members => (Fields.named names members).complete (decode (.named names members))
  | .array _ items => (Fields.listed names items).complete (decode (.listed names items))
  | d => mismatch d

/-! ## Choices -/

/-- A choice as it is written: by its name alone, or with a value. -/
inductive Choice where
  | name (place : Nat) (name : String)
  | member (place : Nat) (name : String) (value : Document)

/-- What was decoded from a member, if no member follows it. -/
def Decode.alone {α : Type} (next : Nat) (rest : Members) (decoded : Decoded α) : Decoded α :=
  match rest with
  | .closed _ => decoded
  | _ => decoded >>= fun _ => .malformed next

/-- Decodes a choice. An object must have exactly one member, and what is neither a string nor an
object is refused without being read. -/
def Decode.choice {α : Type} (decode : Choice → Decoded α) : Decoder α
  | .string place (.ok s) => decode (.name place s)
  | .string _ (.error flaw) => .malformed flaw.reading
  | .object _ (.cons place (.ok name) _ value next rest) =>
    alone next rest (decode (.member place name value))
  | .object _ (.cons _ (.error flaw) _ _ _ _) => .malformed flaw.reading
  | .object _ (.closed place) | .object _ (.broken place) | .object _ (.tooDeep place _) =>
    .malformed place
  | d => .malformed d.place

/-- Decodes one of some names without values. With an object, the value must be null. -/
def Decode.named {α : Type} (ofName? : String → Option α) : Decoder α :=
  choice fun
    | .name place s =>
      match ofName? s with
      | some a => .value a
      | none => .mismatched place
    | .member place s value =>
      match ofName? s with
      | none => .mismatched place
      | some a =>
        match value with
        | .null _ => .value a
        | d => mismatch d

/-! ## Texts and values -/

/-- Decodes a whole text. -/
def decodeText {α : Type} (decode : Decoder α) (s : String) : Decoded α :=
  match Document.read s.toList with
  | (document, .ok []) => decode document
  | (document, .ok (c :: rest)) =>
    (decode document).placedAt (c :: rest).length >>= fun _ => .malformed (c :: rest).length
  | (document, .error place) => decode document >>= fun _ => .malformed place

/-- Decodes a value. A value is always well formed, so the only fault is the wrong shape. -/
def decodeValue {α : Type} (decode : Decoder α) (j : Json) : Option α :=
  (decode j.toDocument).toOption

/-- The line on which a place of a text lies, the first line being one. -/
def lineOf (s : String) (place : Nat) : Nat :=
  let before := s.toList.take (s.toList.length - place)
  before.count '\n' + 1

end EntityGateway
