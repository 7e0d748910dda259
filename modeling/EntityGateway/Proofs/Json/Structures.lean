import EntityGateway.Proofs.Json.Decoding

/-!
# Structures

A structure that was decoded came from documents in which its fields were decoded, and a structure
that was written is decoded field by field. The numbers of JSON are integers of sixty-four bits and
finite doubles; documents in which they are (`Document.isProper`) have parts of the same kind, so
that what holds of values from such documents holds of the fields of a structure.
-/

namespace EntityGateway

variable {α β : Type}

/-! ## Proper numbers -/

mutual

/-- The numbers in a document are numbers of JSON: integers between `-2 ^ 63` and `2 ^ 64 - 1`, and
doubles that are finite. -/
def Document.isProper : Document → Bool
  | .integer _ n => -(Nat.pow 2 63 : Int) ≤ n && n < Nat.pow 2 64
  | .double _ d => d.isFinite
  | .array _ items => items.isProper
  | .object _ members => members.isProper
  | .null _ | .boolean .. | .string .. | .broken .. => true

/-- The numbers in the items of an array are numbers of JSON. -/
def Items.isProper : Items → Bool
  | .cons item rest => item.isProper && rest.isProper
  | .closed _ | .broken _ | .tooDeep .. => true

/-- The numbers in the members of an object are numbers of JSON. -/
def Members.isProper : Members → Bool
  | .cons _ _ _ value _ rest => value.isProper && rest.isProper
  | .closed _ | .broken _ | .tooDeep .. => true

end

/-- The numbers in a value are numbers of JSON. -/
def Json.isProper (j : Json) : Bool := j.toDocument.isProper

/-- The numbers in the fields of a structure are numbers of JSON. -/
def Fields.isProper : Fields → Bool
  | .named _ members => members.isProper
  | .listed _ items => items.isProper

/-! ## Parts -/

/-- The values of the members that can be read. -/
def Members.parts : Members → List Document
  | .cons _ _ _ value _ rest => value :: rest.parts
  | .closed _ | .broken _ | .tooDeep .. => []

/-- The items that can be read. -/
def Items.parts : Items → List Document
  | .cons item rest => item :: rest.parts
  | .closed _ | .broken _ | .tooDeep .. => []

/-- The values of the fields that can be read. -/
def Fields.parts : Fields → List Document
  | .named _ members => members.parts
  | .listed _ items => items.parts

/-- The values in an object whose numbers are numbers of JSON have such numbers. -/
theorem Members.isProper_of_mem_parts : {members : Members} → members.isProper = true →
    ∀ d ∈ members.parts, d.isProper = true
  | .closed _, _ | .broken _, _ | .tooDeep .., _ => List.forall_mem_nil _
  | .cons _ _ _ _ _ _, proper => by
      obtain ⟨valueProper, restProper⟩ := Bool.and_eq_true_iff.mp proper
      exact List.forall_mem_cons.mpr ⟨valueProper, isProper_of_mem_parts restProper⟩

/-- The items of an array whose numbers are numbers of JSON have such numbers. -/
theorem Items.isProper_of_mem_parts : {items : Items} → items.isProper = true →
    ∀ d ∈ items.parts, d.isProper = true
  | .closed _, _ | .broken _, _ | .tooDeep .., _ => List.forall_mem_nil _
  | .cons _ _, proper => by
      obtain ⟨itemProper, restProper⟩ := Bool.and_eq_true_iff.mp proper
      exact List.forall_mem_cons.mpr ⟨itemProper, isProper_of_mem_parts restProper⟩

theorem Fields.isProper_of_mem_parts {fields : Fields} (proper : fields.isProper = true) :
    ∀ d ∈ fields.parts, d.isProper = true := by
  cases fields with
  | named names members => exact Members.isProper_of_mem_parts proper
  | listed names items => exact Items.isProper_of_mem_parts proper

/-! ## Structures that were decoded -/

section Decoded

variable {decode : Decoder α} {name : String} {a : α}

theorem Members.lacking_ne_value : (members : Members) → members.lacking ≠ Found.value a
  | .closed _ | .broken _ | .tooDeep .. => nofun
  | .cons _ _ _ _ _ rest => rest.lacking_ne_value

theorem Items.lacking_ne_value : (items : Items) → items.lacking ≠ Found.value a
  | .closed _ | .broken _ | .tooDeep .. => nofun
  | .cons _ rest => rest.lacking_ne_value

/-- What is found under a name was decoded from the value of a member. -/
theorem Members.exists_part_of_find : {members : Members} →
    members.find name decode = .value (some a) → ∃ d ∈ members.parts, decode d = .value a
  | .closed _, found | .broken _, found | .tooDeep .., found => by cases found
  | .cons place written colon value next rest, found => by
      unfold Members.find at found
      split at found
      · obtain ⟨g, u, mapped, -, applied⟩ := Found.of_seq_eq_value found
        obtain ⟨b, read, rfl⟩ := Found.of_map_eq_value mapped
        cases applied
        exact ⟨value, List.mem_cons_self,
          Decoded.of_placedAt_eq_value (Found.of_inPart_eq_value read)⟩
      · obtain ⟨d, member, read⟩ := exists_part_of_find found
        exact ⟨d, List.mem_cons_of_mem _ member, read⟩

theorem Items.mem_parts_of_get? : {items : Items} → {position : Nat} → {item : Document} →
    items.get? position = some item → item ∈ items.parts
  | .closed _, _, _, got | .broken _, _, _, got | .tooDeep .., _, _, got => by
      simp [Items.get?] at got
  | .cons item rest, 0, _, got => by
      cases got
      exact List.mem_cons_self
  | .cons item rest, position + 1, _, got => by
      have got : rest.get? position = _ := got
      exact List.mem_cons_of_mem _ (mem_parts_of_get? got)

/-- What is found at a position was decoded from an item. -/
theorem Items.exists_part_of_find {items : Items} {position : Nat}
    (found : items.find position decode = .value (some a)) :
    ∃ d ∈ items.parts, decode d = .value a := by
  unfold Items.find at found
  split at found
  · cases found
  · rename_i item got
    obtain ⟨b, read, same⟩ := Found.of_map_eq_value found
    cases same
    exact ⟨item, mem_parts_of_get? got,
      Decoded.of_placedAt_eq_value (Found.of_inPart_eq_value read)⟩

namespace Fields

variable {fields : Fields}

/-- A field that may be missing and is there was decoded from a part of the structure. -/
theorem exists_part_of_optional (found : fields.optional name decode = .value (some a)) :
    ∃ d ∈ fields.parts, decode d = .value a := by
  cases fields with
  | named names members => exact Members.exists_part_of_find found
  | listed names items => exact Items.exists_part_of_find found

/-- The value of a field that must not be missing was decoded. -/
theorem exists_part_of_required (found : fields.required name decode = .value a) :
    ∃ d ∈ fields.parts, decode d = .value a := by
  unfold required at found
  split at found
  · rename_i present
    cases found
    exact exists_part_of_optional present
  · cases fields with
    | named names members => exact absurd found members.lacking_ne_value
    | listed names items => exact absurd found items.lacking_ne_value
  · cases found

/-- The value of a field is the usual one or was decoded. -/
theorem exists_part_of_withDefault {default : α}
    (found : fields.withDefault name decode default = .value a) :
    a = default ∨ ∃ d ∈ fields.parts, decode d = .value a := by
  obtain ⟨optional, present, rfl⟩ := Found.of_map_eq_value found
  cases optional with
  | none => exact .inl rfl
  | some value => exact .inr (exists_part_of_optional present)

/-- A field that must be there was decoded from a document whose numbers are numbers of JSON. -/
theorem of_required (proper : fields.isProper = true)
    (found : fields.required name decode = .value a) :
    ∃ d, d.isProper = true ∧ decode d = .value a := by
  obtain ⟨d, member, read⟩ := exists_part_of_required found
  exact ⟨d, isProper_of_mem_parts proper d member, read⟩

/-- A field with a default has the default, or was decoded from a document whose numbers are numbers
of JSON. -/
theorem of_withDefault {default : α} (proper : fields.isProper = true)
    (found : fields.withDefault name decode default = .value a) :
    a = default ∨ ∃ d, d.isProper = true ∧ decode d = .value a := by
  refine (exists_part_of_withDefault found).imp id ?_
  rintro ⟨d, member, read⟩
  exact ⟨d, isProper_of_mem_parts proper d member, read⟩

end Fields

namespace Decode

theorem mismatch_ne_value (d : Document) : mismatch d ≠ Decoded.value a := by
  unfold mismatch
  split <;> nofun

/-- A structure was decoded from its fields. -/
theorem exists_fields_of_structure {names : List String} {ofFields : Fields → Found α}
    {d : Document} (decoded : Decode.structure names ofFields d = .value a) :
    ∃ fields, (d.isProper = true → fields.isProper = true) ∧ ofFields fields = .value a := by
  unfold Decode.structure at decoded
  split at decoded
  · exact ⟨.named names _, id, Fields.of_complete_eq_value decoded⟩
  · exact ⟨.listed names _, id, Fields.of_complete_eq_value decoded⟩
  · exact absurd decoded (mismatch_ne_value d)

/-- A decoded structure comes from fields whose numbers are numbers of JSON. -/
theorem of_structure {names : List String} {ofFields : Fields → Found α} {d : Document}
    (proper : d.isProper = true) (decoded : Decode.structure names ofFields d = .value a) :
    ∃ fields, fields.isProper = true ∧ ofFields fields = .value a := by
  obtain ⟨fields, fieldsProper, found⟩ := exists_fields_of_structure decoded
  exact ⟨fields, fieldsProper proper, found⟩

/-- Each element of a decoded list was decoded from an item of the array. -/
theorem exists_part_of_items : {items : Items} → {as : List α} →
    Decode.items decode items = .value as → ∀ a ∈ as, ∃ d ∈ items.parts, decode d = .value a
  | .closed _, _, decoded => by cases decoded; simp
  | .broken _, _, decoded | .tooDeep .., _, decoded => by cases decoded
  | .cons item rest, _, decoded => by
      obtain ⟨first, readFirst, decoded⟩ := Decoded.of_bind_eq_value decoded
      obtain ⟨others, readOthers, decoded⟩ := Decoded.of_bind_eq_value decoded
      cases decoded
      refine List.forall_mem_cons.mpr
        ⟨⟨item, List.mem_cons_self, Decoded.of_placedAt_eq_value readFirst⟩, fun a member => ?_⟩
      obtain ⟨d, inRest, read⟩ := exists_part_of_items readOthers a member
      exact ⟨d, List.mem_cons_of_mem _ inRest, read⟩

/-- Every item of a list was decoded. -/
theorem exists_items_of_list {d : Document} {as : List α} (decoded : list decode d = .value as) :
    ∃ items : Items, (d.isProper = true → items.isProper = true) ∧
      ∀ a ∈ as, ∃ part ∈ items.parts, decode part = .value a := by
  unfold list at decoded
  split at decoded
  · exact ⟨_, id, exists_part_of_items decoded⟩
  · exact absurd decoded (mismatch_ne_value d)

/-- Each element of a decoded list comes from a document whose numbers are numbers of JSON. -/
theorem of_list {d : Document} {as : List α} (proper : d.isProper = true)
    (decoded : list decode d = .value as) :
    ∀ a ∈ as, ∃ d, d.isProper = true ∧ decode d = .value a := by
  obtain ⟨items, itemsProper, each⟩ := exists_items_of_list decoded
  intro a member
  obtain ⟨part, inItems, read⟩ := each a member
  exact ⟨part, Items.isProper_of_mem_parts (itemsProper proper) part inItems, read⟩

/-- Each decoded value was decoded from the value of a member. -/
theorem exists_part_of_members : {members : Members} → {entries : List (String × α)} →
    Decode.members decode members = .value entries →
    ∀ entry ∈ entries, ∃ d ∈ members.parts, decode d = .value entry.2
  | .closed _, _, decoded => by cases decoded; simp
  | .broken _, _, decoded | .tooDeep .., _, decoded
  | .cons _ (.error _) _ _ _ _, _, decoded => by cases decoded
  | .cons _ (.ok name) _ value _ rest, _, decoded => by
      obtain ⟨first, readFirst, decoded⟩ := Decoded.of_bind_eq_value decoded
      obtain ⟨others, readOthers, decoded⟩ := Decoded.of_bind_eq_value decoded
      cases decoded
      refine List.forall_mem_cons.mpr
        ⟨⟨value, List.mem_cons_self, Decoded.of_placedAt_eq_value readFirst⟩,
          fun entry member => ?_⟩
      obtain ⟨d, inRest, read⟩ := exists_part_of_members readOthers entry member
      exact ⟨d, List.mem_cons_of_mem _ inRest, read⟩

/-- Every value of a map was decoded. -/
theorem exists_part_of_nameMap {d : Document} {m : NameMap α}
    (decoded : nameMap decode d = .value m) :
    ∀ entry ∈ m.entries, ∃ part, (d.isProper = true → part.isProper = true) ∧
      decode part = .value entry.2 := by
  unfold nameMap at decoded
  split at decoded
  · rename_i members
    obtain ⟨entries, read, rfl⟩ := Decoded.of_map_eq_value decoded
    intro entry member
    obtain ⟨part, inMembers, fine⟩ :=
      exists_part_of_members read entry (mem_of_mem_sortEntries member)
    have proper (all : members.isProper = true) := Members.isProper_of_mem_parts all part inMembers
    exact ⟨part, proper, fine⟩
  · exact absurd decoded (mismatch_ne_value d)

theorem of_alone {next : Nat} {rest : Members} {x : Decoded α}
    (decoded : alone next rest x = .value a) : x = .value a := by
  unfold alone at decoded
  split at decoded
  · exact decoded
  · obtain ⟨b, -, fault⟩ := Decoded.of_bind_eq_value decoded
    cases fault

/-- A choice was decoded from its name or from its member. -/
theorem of_choice {ofChoice : Choice → Decoded α} {d : Document}
    (decoded : choice ofChoice d = .value a) : ∃ chosen, ofChoice chosen = .value a := by
  unfold choice at decoded
  split at decoded
  · exact ⟨_, decoded⟩
  · cases decoded
  · exact ⟨_, of_alone decoded⟩
  all_goals cases decoded

end Decode

end Decoded

/-! ## Structures that were written -/

namespace Members

variable {decode : Decoder α} {name : String} {entries : List (String × Json)}

theorem unrepeated_toMembers (absent : name ∉ entries.map (·.1)) :
    (Json.toMembers entries).unrepeated name = .value () := by
  induction entries with
  | nil => rfl
  | cons entry rest ih =>
      obtain ⟨first, value⟩ := entry
      rw [List.map_cons, List.mem_cons, not_or] at absent
      have different : (WrittenString.is (.ok first) name) = false :=
        decide_eq_false (Ne.symm absent.1)
      rw [Json.toMembers, unrepeated, different]
      exact ih absent.2

/-- A member that was written is found under its name. -/
theorem find_toMembers (distinct : (entries.map (·.1)).Nodup) (name : String)
    (decode : Decoder α) :
    (Json.toMembers entries).find name decode =
      match valueUnder? name entries with
      | some value => some <$> Found.inPart 0 ((decode value.toDocument).placedAt 0)
      | none => .value none := by
  induction entries with
  | nil => rfl
  | cons entry rest ih =>
      obtain ⟨first, firstValue⟩ := entry
      obtain ⟨absent, distinct⟩ := List.nodup_cons.mp distinct
      rw [Json.toMembers, find, valueUnder?]
      by_cases here : first = name
      · have named : WrittenString.is (.ok first) name = true := decide_eq_true here
        rw [if_pos named, if_pos here, unrepeated_toMembers (here ▸ absent)]
        dsimp only
        generalize (decode firstValue.toDocument).placedAt 0 = decoded
        cases decoded <;> rfl
      · have other : ¬ WrittenString.is (.ok first) name = true := mt of_decide_eq_true here
        rw [if_neg other, if_neg here]
        exact ih distinct

/-- Whatever was written can be passed over. -/
theorem passOthers_toMembers (names : List String) (entries : List (String × Json)) :
    (Json.toMembers entries).passOthers names = .value () := by
  induction entries with
  | nil => rfl
  | cons entry rest ih =>
      obtain ⟨first, value⟩ := entry
      rw [Json.toMembers, passOthers, ih, Json.impasse?_toDocument]
      split <;> rfl

end Members

namespace Fields

variable {decode : Decoder α} {names : List String} {name : String}
  {entries : List (String × Json)}

/-- The fields of a structure that was written. -/
def written (names : List String) (entries : List (String × Json)) : Fields :=
  .named names (Json.toMembers entries)

/-- A written structure has no fields that are left over. -/
theorem complete_written (found : Found α) :
    (written names entries).complete found = found.decoded := by
  rw [written, complete, nothingElse, Members.passOthers_toMembers]
  cases found <;> rfl

/-- A field that must be there is looked up by its name in a written structure. -/
theorem required_written (distinct : (entries.map (·.1)).Nodup) :
    (written names entries).required name decode =
      match valueUnder? name entries with
      | some value => Found.inPart 0 ((decode value.toDocument).placedAt 0)
      | none => (written names entries).lacking := by
  rw [written, required, optional, Members.find_toMembers distinct]
  cases valueUnder? name entries with
  | none => rfl
  | some value =>
      dsimp only
      generalize (decode value.toDocument).placedAt 0 = decoded
      cases decoded <;> rfl

/-- A field with a default is looked up by its name in a written structure, and the default stands
in for a field that was not written. -/
theorem withDefault_written (distinct : (entries.map (·.1)).Nodup) (default : α) :
    (written names entries).withDefault name decode default =
      match valueUnder? name entries with
      | some value => Found.inPart 0 ((decode value.toDocument).placedAt 0)
      | none => .value default := by
  rw [written, withDefault, optional, Members.find_toMembers distinct]
  cases valueUnder? name entries with
  | none => rfl
  | some value =>
      dsimp only
      generalize (decode value.toDocument).placedAt 0 = decoded
      cases decoded <;> rfl

/-- As a member, a field that may be null may also be left out. -/
theorem nullIfUnnamed_written :
    (written names entries).nullIfUnnamed name decode =
      (written names entries).withDefault name (Decode.nullable decode) none :=
  rfl

end Fields

namespace Decode

variable {decode : Decoder α}

/-- A structure is decoded from the object that it was written as. -/
theorem structure_object (names : List String) (ofFields : Fields → Found α)
    (entries : List (String × Json)) :
    Decode.structure names ofFields (Json.object entries).toDocument =
      (ofFields (.written names entries)).decoded :=
  Fields.complete_written _

@[simp] theorem text_string (s : String) : text (Json.string s).toDocument = .value s :=
  rfl

@[simp] theorem boolean_boolean (b : Bool) : boolean (Json.boolean b).toDocument = .value b :=
  rfl

@[simp] theorem uint32_integer (n : UInt32) :
    uint32 (Json.integer n.toNat).toDocument = .value n := by
  have bound : (n.toNat : Int) ≤ Nat.pow 2 32 - 1 := by
    have less := n.toNat_lt
    simp
    omega
  have inRange : 0 ≤ (n.toNat : Int) ∧ (n.toNat : Int) ≤ Nat.pow 2 32 - 1 :=
    ⟨Int.natCast_nonneg _, bound⟩
  rw [uint32, Json.toDocument, integerIn, if_pos inRange, Decoded.map_value, Int.toNat_natCast,
    UInt32.ofNat_toNat]

@[simp] theorem uint64_integer (n : UInt64) :
    uint64 (Json.integer n.toNat).toDocument = .value n := by
  have bound : (n.toNat : Int) ≤ Nat.pow 2 64 - 1 := by
    have less := n.toNat_lt
    simp
    omega
  have inRange : 0 ≤ (n.toNat : Int) ∧ (n.toNat : Int) ≤ Nat.pow 2 64 - 1 :=
    ⟨Int.natCast_nonneg _, bound⟩
  rw [uint64, Json.toDocument, integerIn, if_pos inRange, Decoded.map_value, Int.toNat_natCast,
    UInt64.ofNat_toNat]

@[simp] theorem int64_integer (n : Int64) :
    int64 (Json.integer n.toInt).toDocument = .value n := by
  have least : -(Nat.pow 2 63 : Int) ≤ n.toInt := n.le_toInt
  have bound : n.toInt ≤ Nat.pow 2 63 - 1 := Int.le_sub_one_of_lt n.toInt_lt
  rw [int64, Json.toDocument, integerIn, if_pos ⟨least, bound⟩, Decoded.map_value,
    Int64.ofInt_toInt]

@[simp] theorem nullable_null (decode : Decoder α) :
    nullable decode Json.null.toDocument = .value none :=
  rfl

theorem nullable_uint32 (n : UInt32) :
    nullable uint32 (Json.integer n.toNat).toDocument = .value (some n) :=
  congrArg (some <$> ·) (uint32_integer n)

@[simp] theorem nullable_ofText? (t : Option String) :
    nullable text (Json.ofText? t).toDocument = .value t := by
  cases t <;> rfl

theorem named_string {ofName? : String → Option α} {name : String} {a : α}
    (known : ofName? name = some a) : named ofName? (Json.string name).toDocument = .value a := by
  simp only [named, Json.toDocument, choice, known]

/-- A list that was written is decoded item by item. -/
theorem list_array (toJson : β → Json) (reread : β → α) {bs : List β}
    (read : ∀ b ∈ bs, decode (toJson b).toDocument = .value (reread b)) :
    list decode (Json.array (bs.map toJson)).toDocument = .value (bs.map reread) := by
  change items decode (Json.toItems (bs.map toJson)) = _
  induction bs with
  | nil => rfl
  | cons b bs ih =>
      have others := ih fun b member => read b (List.mem_cons_of_mem _ member)
      rw [List.map_cons, Json.toItems, items, read b List.mem_cons_self, others]
      rfl

/-- A map that was written is decoded entry by entry. -/
theorem nameMap_object (toJson : β → Json) (reread : β → α) {m : NameMap β}
    (read : ∀ entry ∈ m.entries, decode (toJson entry.2).toDocument = .value (reread entry.2)) :
    nameMap decode (Json.object (m.entries.map fun entry => (entry.1, toJson entry.2))).toDocument =
      .value (m.mapValues reread) := by
  have each : members decode
      (Json.toMembers (m.entries.map fun entry => (entry.1, toJson entry.2))) =
        .value (m.entries.map fun entry => (entry.1, reread entry.2)) := by
    generalize m.entries = entries at read
    induction entries with
    | nil => rfl
    | cons entry rest ih =>
        have others := ih fun e member => read e (List.mem_cons_of_mem _ member)
        rw [List.map_cons, Json.toMembers, members, read entry List.mem_cons_self, others]
        rfl
  rw [Json.toDocument, nameMap, each, Decoded.map_value]
  exact congrArg Decoded.value (NameMap.ext (sortEntries_of_sorted (m.mapValues reread).sorted))

end Decode

end EntityGateway
