import EntityGateway.Proofs.Json.Structures
import Mathlib.Data.Option.Basic
import Mathlib.Tactic.SplitIfs

/-!
# Places do not matter

Where the parts of a document stand decides where a fault is found, and nothing else: a decoder that
makes a value of a document without places (`Document.unplaced`) makes the same value of the
document. `IgnoresPlaces` says so of one decoder, and each way of putting decoders together keeps
it. So what is known of the documents of values, which have no places, is known of those that were
read from a text.
-/

namespace EntityGateway

variable {α β : Type}

/-! ## Documents without places -/

mutual

/-- The document with all of its places zero. What is wrong with a word is kept. -/
def Document.unplaced : Document → Document
  | .null _ => .null 0
  | .boolean _ b => .boolean 0 b
  | .integer _ n => .integer 0 n
  | .double _ d => .double 0 d
  | .string _ written => .string 0 written
  | .array _ items => .array 0 items.unplaced
  | .object _ members => .object 0 members.unplaced
  | .broken _ flaw => .broken 0 flaw

/-- The items with all of their places zero. -/
def Items.unplaced : Items → Items
  | .closed _ => .closed 0
  | .broken _ => .broken 0
  | .tooDeep _ within => .tooDeep 0 within.unplaced
  | .cons item rest => .cons item.unplaced rest.unplaced

/-- The members with all of their places zero. -/
def Members.unplaced : Members → Members
  | .closed _ => .closed 0
  | .broken _ => .broken 0
  | .tooDeep _ within => .tooDeep 0 within.unplaced
  | .cons _ name _ value _ rest => .cons 0 name 0 value.unplaced 0 rest.unplaced

end

/-- The fields with all of their places zero. -/
def Fields.unplaced : Fields → Fields
  | .named names members => .named names members.unplaced
  | .listed names items => .listed names items.unplaced

/-- The choice with all of its places zero. -/
def Choice.unplaced : Choice → Choice
  | .name _ s => .name 0 s
  | .member _ s value => .member 0 s value.unplaced

/-- What the decoder makes of a document without places, it makes of the document. -/
def IgnoresPlaces (decode : Decoder α) : Prop :=
  ∀ d a, decode d.unplaced = .value a → decode d = .value a

/-- What is found in fields without places is found in the fields. -/
def FieldsIgnorePlaces (find : Fields → Found α) : Prop :=
  ∀ fields a, find fields.unplaced = .value a → find fields = .value a

/-! ## Words and lists -/

namespace IgnoresPlaces

variable {decode : Decoder α}

theorem map (f : α → β) (ignores : IgnoresPlaces decode) :
    IgnoresPlaces fun d => f <$> decode d := by
  intro d b decoded
  obtain ⟨a, found, rfl⟩ := Decoded.of_map_eq_value decoded
  exact congrArg (f <$> ·) (ignores d a found)

theorem text : IgnoresPlaces Decode.text := by
  intro d s decoded
  match d with
  | .string _ (.ok _) => exact decoded
  | .string _ (.error _) | .null _ | .boolean .. | .integer .. | .double .. | .array .. | .object ..
  | .broken .. => cases decoded

theorem integerIn (least greatest : Int) : IgnoresPlaces (Decode.integerIn least greatest) := by
  intro d n decoded
  match d with
  | .integer _ m =>
      rw [Document.unplaced, Decode.integerIn] at decoded
      rw [Decode.integerIn]
      split at decoded
      · rename_i inRange
        rw [if_pos inRange]
        exact decoded
      · cases decoded
  | .null _ | .boolean .. | .string _ (.ok _) | .string _ (.error _) | .double .. | .array ..
  | .object .. | .broken .. => cases decoded

theorem uint32 : IgnoresPlaces Decode.uint32 :=
  (integerIn _ _).map _

theorem uint64 : IgnoresPlaces Decode.uint64 :=
  (integerIn _ _).map _

/-- A decoder that also takes null ignores places as the decoder of the other values does. -/
theorem nullable (ignores : IgnoresPlaces decode) : IgnoresPlaces (Decode.nullable decode) := by
  intro d a decoded
  match d with
  | .null _ => exact decoded
  | .boolean .. | .integer .. | .double .. | .string .. | .array .. | .object .. | .broken .. =>
      exact ignores.map some _ _ decoded

/-- The items of an array are decoded from left to right, and each decoder passes its own places
over. -/
theorem items (ignores : IgnoresPlaces decode) : (found : Items) → {as : List α} →
    Decode.items decode found.unplaced = .value as → Decode.items decode found = .value as
  | .closed _, _, decoded => decoded
  | .broken _, _, decoded | .tooDeep .., _, decoded => by cases decoded
  | .cons item rest, _, decoded => by
      obtain ⟨first, readFirst, decoded⟩ := Decoded.of_bind_eq_value decoded
      obtain ⟨others, readOthers, decoded⟩ := Decoded.of_bind_eq_value decoded
      have first := ignores item _ (Decoded.of_placedAt_eq_value readFirst)
      rw [Decode.items, first, items ignores rest readOthers]
      exact decoded

/-- A list is decoded alike wherever in the text its items stand. -/
theorem list (ignores : IgnoresPlaces decode) : IgnoresPlaces (Decode.list decode) := by
  intro d as decoded
  match d with
  | .array _ found => exact items ignores found decoded
  | .null _ | .boolean .. | .integer .. | .double .. | .string _ (.ok _) | .string _ (.error _)
  | .object .. | .broken .. => cases decoded

/-- The members of an object are decoded in their order, with the names as they are. -/
theorem members (ignores : IgnoresPlaces decode) : (found : Members) →
    {entries : List (String × α)} → Decode.members decode found.unplaced = .value entries →
    Decode.members decode found = .value entries
  | .closed _, _, decoded => decoded
  | .broken _, _, decoded | .tooDeep .., _, decoded
  | .cons _ (.error _) _ _ _ _, _, decoded => by cases decoded
  | .cons _ (.ok name) _ value _ rest, _, decoded => by
      obtain ⟨first, readFirst, decoded⟩ := Decoded.of_bind_eq_value decoded
      obtain ⟨others, readOthers, decoded⟩ := Decoded.of_bind_eq_value decoded
      have first := ignores value _ (Decoded.of_placedAt_eq_value readFirst)
      rw [Decode.members, first, members ignores rest readOthers]
      exact decoded

/-- What is kept by name is decoded alike wherever its members stand. -/
theorem nameMap (ignores : IgnoresPlaces decode) : IgnoresPlaces (Decode.nameMap decode) := by
  intro d map decoded
  match d with
  | .object _ found =>
      obtain ⟨entries, read, rfl⟩ := Decoded.of_map_eq_value decoded
      exact congrArg (NameMap.ofList <$> ·) (members ignores found read)
  | .null _ | .boolean .. | .integer .. | .double .. | .string _ (.ok _) | .string _ (.error _)
  | .array .. | .broken .. => cases decoded

end IgnoresPlaces

/-! ## Values of any kind -/

mutual

/-- JSON values have no places, so a document that is decoded as one loses them in any case. -/
theorem IgnoresPlaces.json : IgnoresPlaces Decode.json
  | .null _, _, decoded | .boolean .., _, decoded | .integer .., _, decoded
  | .double .., _, decoded | .string _ (.ok _), _, decoded => decoded
  | .string _ (.error _), _, decoded | .broken .., _, decoded => by cases decoded
  | .array _ found, _, decoded => by
      obtain ⟨js, read, rfl⟩ := Decoded.of_map_eq_value decoded
      exact congrArg (Json.array <$> ·) (IgnoresPlaces.jsonItems found read)
  | .object _ found, _, decoded => by
      obtain ⟨entries, read, rfl⟩ := Decoded.of_map_eq_value decoded
      exact congrArg (_ <$> ·) (IgnoresPlaces.jsonMembers found read)

theorem IgnoresPlaces.jsonItems : (found : Items) → {js : List Json} →
    Decode.jsonItems found.unplaced = .value js → Decode.jsonItems found = .value js
  | .closed _, _, decoded => decoded
  | .broken _, _, decoded | .tooDeep .., _, decoded => by cases decoded
  | .cons item rest, _, decoded => by
      obtain ⟨first, readFirst, decoded⟩ := Decoded.of_bind_eq_value decoded
      obtain ⟨others, readOthers, decoded⟩ := Decoded.of_bind_eq_value decoded
      rw [Decode.jsonItems, IgnoresPlaces.json item _ readFirst,
        IgnoresPlaces.jsonItems rest readOthers]
      exact decoded

theorem IgnoresPlaces.jsonMembers : (found : Members) → {entries : List (String × Json)} →
    Decode.jsonMembers found.unplaced = .value entries → Decode.jsonMembers found = .value entries
  | .closed _, _, decoded => decoded
  | .broken _, _, decoded | .tooDeep .., _, decoded
  | .cons _ (.error _) _ _ _ _, _, decoded => by cases decoded
  | .cons _ (.ok name) _ value _ rest, _, decoded => by
      obtain ⟨first, readFirst, decoded⟩ := Decoded.of_bind_eq_value decoded
      obtain ⟨others, readOthers, decoded⟩ := Decoded.of_bind_eq_value decoded
      rw [Decode.jsonMembers, IgnoresPlaces.json value _ readFirst,
        IgnoresPlaces.jsonMembers rest readOthers]
      exact decoded

end

/-! ## Fields -/

mutual

/-- Where nothing is in the way of passing over a document without places, nothing is in the way of
the document: flaws are of words, not of places. -/
theorem Document.impasse?_of_unplaced : (d : Document) → d.unplaced.impasse? = none →
    d.impasse? = none
  | .null _, passed | .boolean .., passed | .integer .., passed | .double .., passed
  | .string _ (.ok _), passed | .string _ (.error _), passed | .broken .., passed => passed
  | .array _ items, passed => Items.impasse?_of_unplaced items passed
  | .object _ members, passed => Members.impasse?_of_unplaced members passed

theorem Items.impasse?_of_unplaced : (items : Items) → items.unplaced.impasse? = none →
    items.impasse? = none
  | .closed _, passed => passed
  | .broken _, passed => by cases passed
  | .tooDeep _ within, passed => Items.impasse?_of_unplaced within passed
  | .cons item rest, passed => by
      obtain ⟨first, others⟩ := (Option.orElse_eq_none _ _).mp passed
      rw [Items.impasse?, Document.impasse?_of_unplaced item first]
      exact Items.impasse?_of_unplaced rest others

theorem Members.impasse?_of_unplaced : (members : Members) → members.unplaced.impasse? = none →
    members.impasse? = none
  | .closed _, passed => passed
  | .broken _, passed => by cases passed
  | .tooDeep _ within, passed => Members.impasse?_of_unplaced within passed
  | .cons _ (.error flaw) _ value _ rest, passed => by
      obtain ⟨first, others⟩ := (Option.orElse_eq_none _ _).mp passed
      obtain ⟨second, others⟩ := (Option.orElse_eq_none _ _).mp others
      rw [Members.impasse?, first, Document.impasse?_of_unplaced value second]
      exact Members.impasse?_of_unplaced rest others
  | .cons _ (.ok _) _ value _ rest, passed => by
      obtain ⟨first, others⟩ := (Option.orElse_eq_none _ _).mp passed
      rw [Members.impasse?, Document.impasse?_of_unplaced value first]
      exact Members.impasse?_of_unplaced rest others

end

namespace Members

variable {decode : Decoder α} {name : String}

/-- Members that no field has the name of are passed over wherever they stand. -/
theorem passOthers_of_unplaced {names : List String} : (members : Members) →
    members.unplaced.passOthers names = .value () → members.passOthers names = .value ()
  | .closed _, passed => passed
  | .broken _, passed | .tooDeep .., passed | .cons _ (.error _) .., passed => by cases passed
  | .cons _ (.ok name) _ value _ rest, passed => by
      rw [unplaced, passOthers] at passed
      rw [passOthers]
      split_ifs at passed ⊢
      · exact passOthers_of_unplaced rest passed
      · split at passed
        · cases passed
        · rename_i nowhere
          rw [Document.impasse?_of_unplaced value nowhere]
          exact passOthers_of_unplaced rest passed

/-- Whether a field is given twice does not depend on places. -/
theorem unrepeated_of_unplaced : (members : Members) →
    members.unplaced.unrepeated name = .value () → members.unrepeated name = .value ()
  | .closed _, _ | .broken _, _ | .tooDeep .., _ => rfl
  | .cons _ found _ _ _ rest, once => by
      rw [unplaced, unrepeated] at once
      rw [unrepeated]
      split_ifs at once ⊢
      exact unrepeated_of_unplaced rest once

/-- The member of a name is found, or missed, without looking at places. -/
theorem find_of_unplaced (ignores : IgnoresPlaces decode) : (members : Members) →
    {a? : Option α} → members.unplaced.find name decode = .value a? →
    members.find name decode = .value a?
  | .closed _, _, found | .broken _, _, found | .tooDeep .., _, found => found
  | .cons _ written _ value _ rest, _, found => by
      rw [unplaced, find] at found
      rw [find]
      split_ifs at found ⊢
      · obtain ⟨g, u, mapped, once, applied⟩ := Found.of_seq_eq_value found
        obtain ⟨a, read, rfl⟩ := Found.of_map_eq_value mapped
        have decoded := Decoded.of_placedAt_eq_value (Found.of_inPart_eq_value read)
        rw [ignores value a decoded, unrepeated_of_unplaced rest once]
        exact congrArg Found.value applied
      · exact find_of_unplaced ignores rest found

/-- A name occurs as often without places as with them. -/
theorem count_unplaced (name : String) : (members : Members) →
    members.unplaced.count name = members.count name
  | .closed _ | .broken _ | .tooDeep .. => rfl
  | .cons _ _ _ _ _ rest => congrArg (_ + ·) (count_unplaced name rest)

end Members

namespace Items

/-- Items keep their positions when they lose their places. -/
theorem get?_unplaced : (items : Items) → (position : Nat) →
    items.unplaced.get? position = (items.get? position).map Document.unplaced
  | .closed _, _ | .broken _, _ | .tooDeep .., _ | .cons .., 0 => rfl
  | .cons _ rest, position + 1 => get?_unplaced rest position

/-- The item at a position is found, or missed, without looking at places. -/
theorem find_of_unplaced {decode : Decoder α} (ignores : IgnoresPlaces decode) (items : Items)
    {position : Nat} {a? : Option α} (found : items.unplaced.find position decode = .value a?) :
    items.find position decode = .value a? := by
  rw [find, get?_unplaced] at found
  rw [find]
  cases got : items.get? position with
  | none =>
      rw [got] at found
      exact found
  | some item =>
      rw [got] at found
      obtain ⟨a, read, rfl⟩ := Found.of_map_eq_value found
      have decoded := Decoded.of_placedAt_eq_value (Found.of_inPart_eq_value read)
      dsimp only
      rw [ignores item a decoded]
      rfl

/-- Whether an array has too many items does not depend on places. -/
theorem atMost_of_unplaced : (items : Items) → (count : Nat) →
    items.unplaced.atMost count = .value () → items.atMost count = .value ()
  | .closed _, _, few => by rw [atMost]
  | .cons _ rest, count + 1, few => atMost_of_unplaced rest count few
  | .broken _, 0, few | .broken _, _ + 1, few | .tooDeep .., 0, few | .tooDeep .., _ + 1, few
  | .cons .., 0, few => by cases few

end Items

namespace FieldsIgnorePlaces

variable {find : Fields → Found α} {decode : Decoder α} {name : String}

theorem map (f : α → β) (ignores : FieldsIgnorePlaces find) :
    FieldsIgnorePlaces fun fields => f <$> find fields := by
  intro fields b found
  obtain ⟨a, read, rfl⟩ := Found.of_map_eq_value found
  exact congrArg (f <$> ·) (ignores fields a read)

/-- Fields that are found one after the other ignore places if each of them does. -/
theorem seq {function : Fields → Found (α → β)}
    (functionIgnores : FieldsIgnorePlaces function) (ignores : FieldsIgnorePlaces find) :
    FieldsIgnorePlaces fun fields => function fields <*> find fields := by
  intro fields b found
  obtain ⟨g, a, foundFunction, foundArgument, rfl⟩ := Found.of_seq_eq_value found
  dsimp only
  rw [functionIgnores fields g foundFunction, ignores fields a foundArgument]
  rfl

/-- A field that may be missing is decoded alike at every place. -/
theorem optional (name : String) (ignores : IgnoresPlaces decode) :
    FieldsIgnorePlaces fun fields => fields.optional name decode := by
  intro fields a? found
  cases fields with
  | named names members => exact members.find_of_unplaced ignores found
  | listed names items => exact items.find_of_unplaced ignores found

/-- A field that must be there is decoded alike at every place. -/
theorem required (name : String) (ignores : IgnoresPlaces decode) :
    FieldsIgnorePlaces fun fields => fields.required name decode := by
  intro fields a found
  dsimp only at found ⊢
  unfold Fields.required at found
  split at found
  · rename_i present
    cases found
    have read : fields.optional name decode = .value (some a) :=
      optional name ignores fields _ present
    rw [Fields.required, read]
  · cases fields with
    | named names members => exact absurd found members.unplaced.lacking_ne_value
    | listed names items => exact absurd found items.unplaced.lacking_ne_value
  · cases found

theorem withDefault (name : String) (default : α) (ignores : IgnoresPlaces decode) :
    FieldsIgnorePlaces fun fields => fields.withDefault name decode default :=
  (optional name ignores).map _

theorem nothingElse : FieldsIgnorePlaces Fields.nothingElse := by
  rintro (⟨names, members⟩ | ⟨names, items⟩) ⟨⟩ passed
  · exact members.passOthers_of_unplaced passed
  · exact items.atMost_of_unplaced _ passed

end FieldsIgnorePlaces

/-! ## Structures and choices -/

/-- A structure that is decoded without places is decoded with them: what is left over does not
depend on places. -/
theorem Fields.complete_of_unplaced {find : Fields → Found α} (ignores : FieldsIgnorePlaces find)
    (fields : Fields) {a : α}
    (completed : fields.unplaced.complete (find fields.unplaced) = .value a) :
    fields.complete (find fields) = .value a := by
  obtain ⟨g, u, mapped, passed, applied⟩ :=
    Found.of_seq_eq_value (Found.of_decoded_eq_value completed)
  obtain ⟨b, found, rfl⟩ := Found.of_map_eq_value mapped
  rw [Fields.complete, ignores fields b found, FieldsIgnorePlaces.nothingElse fields u passed]
  exact congrArg Decoded.value applied

namespace IgnoresPlaces

/-- Structures ignore places if the search for their fields does. -/
theorem ofFields {find : Fields → Found α} (names : List String)
    (ignores : FieldsIgnorePlaces find) : IgnoresPlaces (Decode.structure names find) := by
  intro d a decoded
  match d with
  | .object _ members =>
      exact Fields.complete_of_unplaced ignores (.named names members) decoded
  | .array _ items =>
      exact Fields.complete_of_unplaced ignores (.listed names items) decoded
  | .null _ | .boolean .. | .integer .. | .double .. | .string _ (.ok _) | .string _ (.error _)
  | .broken .. => cases decoded

/-- The only member of a choice is alone wherever it stands. -/
theorem alone {next next' : Nat} {x x' : Decoded α} {a : α}
    (same : x = .value a → x' = .value a) : (rest : Members) →
    Decode.alone next rest.unplaced x = .value a → Decode.alone next' rest x' = .value a
  | .closed _, decoded => same decoded
  | .broken _, decoded | .tooDeep .., decoded | .cons .., decoded => by
      obtain ⟨b, -, fault⟩ := Decoded.of_bind_eq_value decoded
      cases fault

/-- A choice ignores places if what is chosen does. -/
theorem choice {ofChoice : Choice → Decoded α}
    (ignores : ∀ c a, ofChoice c.unplaced = .value a → ofChoice c = .value a) :
    IgnoresPlaces (Decode.choice ofChoice) := by
  intro d a decoded
  match d with
  | .string place (.ok s) => exact ignores (.name place s) a decoded
  | .object _ (.cons place (.ok name) _ value next rest) =>
      exact alone (ignores (.member place name value) a) rest decoded
  | .null _ | .boolean .. | .integer .. | .double .. | .string _ (.error _) | .array ..
  | .object _ (.cons _ (.error _) ..) | .object _ (.closed _) | .object _ (.broken _)
  | .object _ (.tooDeep ..) | .broken .. => cases decoded

theorem named (ofName? : String → Option α) : IgnoresPlaces (Decode.named ofName?) := by
  refine choice ?_
  rintro (⟨place, name⟩ | ⟨place, name, value⟩) a decoded
  · dsimp only [Choice.unplaced] at decoded ⊢
    split at decoded
    · exact decoded
    · cases decoded
  · dsimp only [Choice.unplaced] at decoded ⊢
    split at decoded
    · cases decoded
    · match value with
      | .null _ => exact decoded
      | .boolean .. | .integer .. | .double .. | .string _ (.ok _) | .string _ (.error _)
      | .array .. | .object .. | .broken .. => cases decoded

end IgnoresPlaces

end EntityGateway
