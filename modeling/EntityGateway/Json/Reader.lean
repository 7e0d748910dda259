import EntityGateway.Json.Document
import EntityGateway.Json.Scanner

/-!
# Reading JSON

`Document.read` turns a text into a document. It accepts the standard grammar and nothing else, and
arrays and objects may nest a hundred and twenty-seven deep. What comes after a value that is no
blank makes the text malformed as well; the reader hands it back.
-/

namespace EntityGateway

open Scanner

/-- How deep arrays and objects may nest. -/
def Document.nestingLimit : Nat := 127

/-- What is left of a text after a part of it: the characters that follow, or the place where
passing over the part stops. -/
abbrev Remaining := Except Nat (List Char)

/-- Reads a string after its opening quote. -/
def WrittenString.read (cs : List Char) : WrittenString × Remaining :=
  match scanString [] cs with
  | .word s rest => (.ok s, .ok rest)
  | .cut p =>
    match passString cs with
    | .word _ rest => (.error ⟨p, none⟩, .ok rest)
    | .cut q => (.error ⟨p, some q⟩, .error q)

/-- The document of a scanned number. -/
def Document.ofNumber (place : Nat) : Scan Numeral → Document × Remaining
  | .word n rest =>
    match n.value with
    | .integer value => (.integer place value, .ok rest)
    | .double value => (.double place value, .ok rest)
    | .beyond => (.broken place ⟨place, none⟩, .ok rest)
  | .cut p => (.broken place (.at p), .error p)

/-- The document of a scanned name. -/
def Document.ofName (value : Document) : Scan Unit → Document × Remaining
  | .word _ rest => (value, .ok rest)
  | .cut p => (.broken value.place (.at p), .error p)

/-- The document of something that begins no value. -/
def Document.noValue (place : Nat) : Document × Remaining :=
  (.broken place (.at place), .error place)

mutual

/-- Reads a value from its first character on. `room` is how deep arrays and objects may still nest;
`fuel` bounds the number of steps; twice as many as characters, and two more, are enough. -/
def Document.readValue : Nat → Nat → List Char → Document × Remaining
  | 0, _, _ => Document.noValue 0
  | _ + 1, _, [] => Document.noValue 0
  | fuel + 1, room, c :: rest =>
    let place := rest.length + 1
    if c = '"' then
      let (written, remaining) := WrittenString.read rest
      (.string place written, remaining)
    else if c = '-' ∨ isDigit c then Document.ofNumber place (scanNumber (c :: rest))
    else if c = 'n' then Document.ofName (.null place) (scanName ['u', 'l', 'l'] rest)
    else if c = 't' then Document.ofName (.boolean place true) (scanName ['r', 'u', 'e'] rest)
    else if c = 'f' then
      Document.ofName (.boolean place false) (scanName ['a', 'l', 's', 'e'] rest)
    else if c = '[' then
      let (items, remaining) :=
        match skipBlanks rest with
        | ']' :: after => (Items.closed (after.length + 1), .ok after)
        | start => Document.readItems fuel (room - 1) start
      (.array place (if room = 0 then .tooDeep place items else items), remaining)
    else if c = '{' then
      let (members, remaining) :=
        match skipBlanks rest with
        | '}' :: after => (Members.closed (after.length + 1), .ok after)
        | start => Document.readMembers fuel (room - 1) start
      (.object place (if room = 0 then .tooDeep place members else members), remaining)
    else Document.noValue place

/-- Reads items from the start of one on. -/
def Document.readItems : Nat → Nat → List Char → Items × Remaining
  | 0, _, _ => (.broken 0, .error 0)
  | fuel + 1, room, cs =>
    match Document.readValue fuel room cs with
    | (item, .error p) => (.cons item (.broken p), .error p)
    | (item, .ok rest) =>
      match skipBlanks rest with
      | ',' :: more =>
        let (items, remaining) := Document.readItems fuel room (skipBlanks more)
        (.cons item items, remaining)
      | ']' :: after => (.cons item (.closed (after.length + 1)), .ok after)
      | other => (.cons item (.broken other.length), .error other.length)

/-- Reads members from the start of one on. -/
def Document.readMembers : Nat → Nat → List Char → Members × Remaining
  | 0, _, _ => (.broken 0, .error 0)
  | fuel + 1, room, '"' :: rest =>
    let place := rest.length + 1
    match WrittenString.read rest with
    | (name, .error p) => (.cons place name p (.broken p (.at p)) p (.broken p), .error p)
    | (name, .ok rest) =>
      match skipBlanks rest with
      | ':' :: more =>
        let colon := more.length + 1
        match Document.readValue fuel room (skipBlanks more) with
        | (value, .error p) => (.cons place name colon value p (.broken p), .error p)
        | (value, .ok rest) =>
          match skipBlanks rest with
          | ',' :: more =>
            let (members, remaining) := Document.readMembers fuel room (skipBlanks more)
            (.cons place name colon value (more.length + 1) members, remaining)
          | '}' :: after =>
            let p := after.length + 1
            (.cons place name colon value p (.closed p), .ok after)
          | other =>
            let p := other.length
            (.cons place name colon value p (.broken p), .error p)
      | other =>
        let p := other.length
        (.cons place name p (.broken p (.at p)) p (.broken p), .error p)
  | _ + 1, _, cs => (.broken cs.length, .error cs.length)

end

/-- Reads a text: its document, and what follows the value, blanks left out. -/
def Document.read (cs : List Char) : Document × Remaining :=
  match Document.readValue (2 * cs.length + 2) Document.nestingLimit (skipBlanks cs) with
  | (document, .ok rest) => (document, .ok (skipBlanks rest))
  | cut => cut

end EntityGateway
