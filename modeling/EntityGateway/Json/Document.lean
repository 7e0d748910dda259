import EntityGateway.Json.Basic

/-!
# JSON documents

A document is the tree of a JSON text as far as the text is one: the members of an object stand in
the order of the text and may repeat, each part knows its place, and a part that is no JSON is
marked as broken. Decoding works on documents, so that it can report the first thing wrong with a
text in the order of the text.

A *place* is the number of characters from there to the end of the text. Earlier places are
larger numbers. A word is read if its value matters, and passed over if it does not; passing over
asks less of a word than reading it.
-/

namespace EntityGateway

/-- What is wrong with a word: where reading it stops, and where passing over it stops, unless it
can be passed over. -/
structure Flaw where
  reading : Nat
  passing : Option Nat

/-- A flaw that stops reading and passing over at the same place. -/
def Flaw.at (place : Nat) : Flaw :=
  ⟨place, some place⟩

/-- A string, or what is wrong with it. -/
abbrev WrittenString := Except Flaw String

/-- It is this string. -/
def WrittenString.is (written : WrittenString) (s : String) : Bool :=
  match written with
  | .ok t => t = s
  | .error _ => false

mutual

/-- A part of a JSON text. -/
inductive Document where
  | null (place : Nat)
  | boolean (place : Nat) (value : Bool)
  | integer (place : Nat) (value : Int)
  | double (place : Nat) (value : Double)
  | string (place : Nat) (written : WrittenString)
  | array (place : Nat) (items : Items)
  | object (place : Nat) (members : Members)
  /-- What is no string, and has no value. -/
  | broken (place : Nat) (flaw : Flaw)

/-- The items of an array. -/
inductive Items where
  /-- The closing bracket. -/
  | closed (place : Nat)
  /-- Neither the closing bracket nor the comma before a next item. -/
  | broken (place : Nat)
  /-- The items of an array inside too many others. They can be passed over, but not read. -/
  | tooDeep (place : Nat) (within : Items)
  | cons (item : Document) (rest : Items)

/-- The members of an object. -/
inductive Members where
  /-- The closing brace. -/
  | closed (place : Nat)
  /-- Neither the closing brace nor a next member. -/
  | broken (place : Nat)
  /-- The members of an object inside too many others. They can be passed over, but not read. -/
  | tooDeep (place : Nat) (within : Members)
  /-- A member. The places are those of its name, of what should be the colon, and of what follows
  the value. -/
  | cons (place : Nat) (name : WrittenString) (colon : Nat) (value : Document) (next : Nat)
      (rest : Members)

end

/-- The place where a part of a document begins. -/
def Document.place : Document → Nat
  | null p | boolean p _ | integer p _ | double p _ | string p _ | array p _ | object p _
  | broken p _ => p

/-- The place of the next item, or of the end. -/
def Items.place : Items → Nat
  | closed p | broken p | tooDeep p _ => p
  | cons item _ => item.place

/-- The item at a position. -/
def Items.get? : Items → Nat → Option Document
  | cons item _, 0 => some item
  | cons _ rest, position + 1 => rest.get? position
  | _, _ => none

/-- The place of what follows the item at a position. -/
def Items.following : Items → Nat → Nat
  | cons _ rest, 0 => rest.place
  | cons _ rest, position + 1 => rest.following position
  | items, _ => items.place

/-- How many members have a name. -/
def Members.count (name : String) : Members → Nat
  | cons _ found _ _ _ rest => (if found.is name then 1 else 0) + rest.count name
  | _ => 0

mutual

/-- The place where passing over a part of a document stops, if it does. -/
def Document.impasse? : Document → Option Nat
  | .array _ items => items.impasse?
  | .object _ members => members.impasse?
  | .string _ (.error flaw) | .broken _ flaw => flaw.passing
  | _ => none

/-- The place where passing over the items of an array stops, if it does. -/
def Items.impasse? : Items → Option Nat
  | .closed _ => none
  | .broken p => some p
  | .tooDeep _ within => within.impasse?
  | .cons item rest => item.impasse? <|> rest.impasse?

/-- The place where passing over the members of an object stops, if it does. -/
def Members.impasse? : Members → Option Nat
  | .closed _ => none
  | .broken p => some p
  | .tooDeep _ within => within.impasse?
  | .cons _ (.error flaw) _ value _ rest =>
    flaw.passing <|> value.impasse? <|> rest.impasse?
  | .cons _ (.ok _) _ value _ rest => value.impasse? <|> rest.impasse?

end

mutual

/-- A JSON value as a document that has no text, all of its places being zero. -/
def Json.toDocument : Json → Document
  | null => .null 0
  | boolean b => .boolean 0 b
  | integer n => .integer 0 n
  | double d => .double 0 d
  | string s => .string 0 (.ok s)
  | array items => .array 0 (Json.toItems items)
  | object members => .object 0 (Json.toMembers members)

/-- The items of an array as those of a document. -/
def Json.toItems : List Json → Items
  | [] => .closed 0
  | item :: rest => .cons item.toDocument (Json.toItems rest)

/-- The members of an object as those of a document. -/
def Json.toMembers : List (String × Json) → Members
  | [] => .closed 0
  | (name, value) :: rest => .cons 0 (.ok name) 0 value.toDocument 0 (Json.toMembers rest)

end

end EntityGateway
