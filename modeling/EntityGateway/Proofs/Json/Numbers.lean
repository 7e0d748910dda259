import EntityGateway.Proofs.Json.Structures
import EntityGateway.Proofs.Number.Finite

/-!
# The numbers of a text are numbers of JSON

Whatever a text holds, the numbers in its document are integers of sixty-four bits or finite doubles
(`Document.isProper_read`): an integer beyond these becomes a double, and a double beyond the finite
ones is no value at all. So the same is true of every value that is decoded from a text.
-/

namespace EntityGateway

/-! ## Numerals -/

namespace Scanner

/-- The value is a number of JSON, if it is one. -/
def NumberValue.IsProper : NumberValue → Prop
  | integer n => -(Nat.pow 2 63 : Int) ≤ n ∧ n < Nat.pow 2 64
  | double d => d.isFinite = true
  | beyond => True

theorem NumberValue.isProper_ofDouble? {found : Option Double}
    (finite : ∀ d, found = some d → d.isFinite = true) : (ofDouble? found).IsProper := by
  cases found with
  | none => trivial
  | some d => exact finite d rfl

/-- There is room for the digits that are appended. -/
theorem appendWhole_le {significand : Nat} (room : significand ≤ significandBound)
    (digits : List Nat) : (appendWhole significand digits).1 ≤ significandBound := by
  induction digits generalizing significand with
  | nil => exact room
  | cons d digits ih =>
      rw [appendWhole]
      split
      · exact room
      · rename_i fits
        exact ih (Nat.not_lt.mp fits)

/-- What is appended does not depend on where the point is. -/
theorem appendFraction_fst (significand : Nat) (digits : List Nat) :
    (appendFraction significand digits).1 = (appendWhole significand digits).1 := by
  induction digits generalizing significand with
  | nil => rfl
  | cons d digits ih =>
      rw [appendFraction, appendWhole]
      split
      · rfl
      · exact ih _

/-- Digits that are read as a double are a finite one, or are refused for being too large. -/
theorem isProper_ofDigits? (negative : Bool) {significand : Nat} (exponent : Int)
    (room : significand ≤ significandBound) :
    (NumberValue.ofDouble? (Double.ofDigits? negative significand exponent)).IsProper :=
  NumberValue.isProper_ofDouble? fun _ read =>
    Double.isFinite_of_ofDigits? (Nat.lt_of_le_of_lt room (by decide)) read

/-- The value of a numeral is a number of JSON, if it has a value. -/
theorem Numeral.isProper_value (n : Numeral) : n.value.IsProper := by
  have roomWhole := appendWhole_le (Nat.zero_le _) n.whole
  have roomFraction := appendWhole_le roomWhole (n.fraction.getD [])
  rw [← appendFraction_fst] at roomFraction
  have bound : significandBound + 1 = Nat.pow 2 64 := by decide
  unfold Numeral.value
  simp only
  split
  · split
    · split
      · exact ⟨by simp only [Nat.pow_eq]; omega, by omega⟩
      · split
        · exact isProper_ofDigits? true 0 roomWhole
        · rename_i negatable
          obtain ⟨-, least⟩ := not_or.mp negatable
          exact ⟨by omega, by simp only [Nat.pow_eq]; omega⟩
    · exact isProper_ofDigits? n.negative _ roomWhole
  · exact isProper_ofDigits? n.negative _ roomFraction

end Scanner

/-! ## Documents -/

namespace Document

variable {place : Nat}

theorem isProper_ofNumber (place : Nat) (scanned : Scanner.Scan Scanner.Numeral) :
    (ofNumber place scanned).1.isProper = true := by
  cases scanned with
  | cut p => rfl
  | word n rest =>
      have proper := n.isProper_value
      rw [ofNumber]
      cases value : n.value with
      | integer v =>
          rw [value] at proper
          exact Bool.and_eq_true_iff.mpr ⟨decide_eq_true proper.1, decide_eq_true proper.2⟩
      | double d =>
          rw [value] at proper
          exact proper
      | beyond => rfl

theorem isProper_ofName {value : Document} (proper : value.isProper = true)
    (scanned : Scanner.Scan Unit) : (ofName value scanned).1.isProper = true := by
  cases scanned with
  | cut p => rfl
  | word u rest => exact proper

mutual

/-- Whatever the text is, the numbers in what is read from it are numbers of JSON. The induction is
on the fuel, through the readers of items and members. -/
theorem isProper_readValue : (fuel room : Nat) → (cs : List Char) →
    (readValue fuel room cs).1.isProper = true
  | 0, _, _ | _ + 1, _, [] => rfl
  | fuel + 1, room, c :: rest => by
      rw [readValue]
      simp only
      split
      · rfl
      split
      · exact isProper_ofNumber ..
      split
      · exact isProper_ofName rfl _
      split
      · exact isProper_ofName rfl _
      split
      · exact isProper_ofName rfl _
      split
      · change Items.isProper (ite ..) = true
        split
        · rfl
        split
        · rfl
        · exact isProper_readItems fuel _ _
      split
      · change Members.isProper (ite ..) = true
        split
        · rfl
        split
        · rfl
        · exact isProper_readMembers fuel _ _
      · rfl

/-- The items of an array are read to documents whose numbers are numbers of JSON. -/
theorem isProper_readItems : (fuel room : Nat) → (cs : List Char) →
    (readItems fuel room cs).1.isProper = true
  | 0, _, _ => rfl
  | fuel + 1, room, cs => by
      have item := isProper_readValue fuel room cs
      rw [readItems]
      split
      · rename_i read
        rw [read] at item
        exact Bool.and_eq_true_iff.mpr ⟨item, rfl⟩
      · rename_i read
        rw [read] at item
        split
        · exact Bool.and_eq_true_iff.mpr ⟨item, isProper_readItems fuel room _⟩
        · exact Bool.and_eq_true_iff.mpr ⟨item, rfl⟩
        · exact Bool.and_eq_true_iff.mpr ⟨item, rfl⟩

/-- The members of an object are read to documents whose numbers are numbers of JSON. -/
theorem isProper_readMembers : (fuel room : Nat) → (cs : List Char) →
    (readMembers fuel room cs).1.isProper = true
  | 0, _, _ => rfl
  | fuel + 1, room, cs => by
      by_cases named : ∃ rest, cs = '"' :: rest
      · obtain ⟨rest, rfl⟩ := named
        rw [readMembers]
        simp only
        split
        · rfl
        split
        · rename_i more _
          have value := isProper_readValue fuel room (Scanner.skipBlanks more)
          split
          · rename_i read
            rw [read] at value
            exact Bool.and_eq_true_iff.mpr ⟨value, rfl⟩
          · rename_i read
            rw [read] at value
            split
            · exact Bool.and_eq_true_iff.mpr ⟨value, isProper_readMembers fuel room _⟩
            · exact Bool.and_eq_true_iff.mpr ⟨value, rfl⟩
            · exact Bool.and_eq_true_iff.mpr ⟨value, rfl⟩
        · rfl
      · rw [readMembers]
        · rfl
        · exact fun rest same => named ⟨rest, same⟩

end

/-- The document of a text is proper. -/
theorem isProper_read (cs : List Char) : (read cs).1.isProper = true := by
  have value := isProper_readValue (2 * cs.length + 2) nestingLimit (Scanner.skipBlanks cs)
  rw [read]
  split
  · rename_i found
    rw [found] at value
    exact value
  · exact value

end Document

/-! ## Values -/

namespace Json

theorem isProper_toItems {items : List Json} (each : ∀ item ∈ items, item.isProper = true) :
    (toItems items).isProper = true := by
  induction items with
  | nil => rfl
  | cons first rest ih =>
      obtain ⟨firstProper, restProper⟩ := List.forall_mem_cons.mp each
      exact Bool.and_eq_true_iff.mpr ⟨firstProper, ih restProper⟩

theorem isProper_toMembers {members : List (String × Json)}
    (each : ∀ member ∈ members, member.2.isProper = true) :
    (toMembers members).isProper = true := by
  induction members with
  | nil => rfl
  | cons first rest ih =>
      obtain ⟨firstProper, restProper⟩ := List.forall_mem_cons.mp each
      exact Bool.and_eq_true_iff.mpr ⟨firstProper, ih restProper⟩

end Json

namespace Decode

mutual

/-- A value has the numbers of the document that it was decoded from. -/
theorem isProper_of_json : (d : Document) → {j : Json} → d.isProper = true → json d = .value j →
    j.isProper = true
  | .null _, _, proper, decoded | .boolean _ _, _, proper, decoded
  | .integer _ _, _, proper, decoded | .double _ _, _, proper, decoded
  | .string _ (.ok _), _, proper, decoded => by cases decoded; exact proper
  | .string _ (.error _), _, _, decoded | .broken _ _, _, _, decoded => by cases decoded
  | .array _ items, _, proper, decoded => by
      obtain ⟨js, read, rfl⟩ := Decoded.of_map_eq_value decoded
      exact Json.isProper_toItems (isProper_of_jsonItems items proper read)
  | .object _ members, _, proper, decoded => by
      obtain ⟨entries, read, rfl⟩ := Decoded.of_map_eq_value decoded
      have each := isProper_of_jsonMembers members proper read
      exact Json.isProper_toMembers fun entry member => each entry (mem_of_mem_sortEntries member)

theorem isProper_of_jsonItems : (items : Items) → {js : List Json} → items.isProper = true →
    jsonItems items = .value js → ∀ j ∈ js, j.isProper = true
  | .closed _, _, _, decoded => by cases decoded; simp
  | .broken _, _, _, decoded | .tooDeep _ _, _, _, decoded => by cases decoded
  | .cons item rest, _, proper, decoded => by
      obtain ⟨itemProper, restProper⟩ := Bool.and_eq_true_iff.mp proper
      obtain ⟨first, readFirst, decoded⟩ := Decoded.of_bind_eq_value decoded
      obtain ⟨others, readOthers, decoded⟩ := Decoded.of_bind_eq_value decoded
      cases decoded
      exact List.forall_mem_cons.mpr ⟨isProper_of_json item itemProper readFirst,
        isProper_of_jsonItems rest restProper readOthers⟩

theorem isProper_of_jsonMembers : (members : Members) → {entries : List (String × Json)} →
    members.isProper = true → jsonMembers members = .value entries →
    ∀ entry ∈ entries, entry.2.isProper = true
  | .closed _, _, _, decoded => by cases decoded; simp
  | .broken _, _, _, decoded | .tooDeep _ _, _, _, decoded
  | .cons _ (.error _) _ _ _ _, _, _, decoded => by cases decoded
  | .cons _ (.ok name) _ value _ rest, _, proper, decoded => by
      obtain ⟨valueProper, restProper⟩ := Bool.and_eq_true_iff.mp proper
      obtain ⟨first, readFirst, decoded⟩ := Decoded.of_bind_eq_value decoded
      obtain ⟨others, readOthers, decoded⟩ := Decoded.of_bind_eq_value decoded
      cases decoded
      exact List.forall_mem_cons.mpr ⟨isProper_of_json value valueProper readFirst,
        isProper_of_jsonMembers rest restProper readOthers⟩

end

end Decode

/-! ## Values of texts -/

/-- A value that was decoded from a text was decoded from a proper document. -/
theorem exists_proper_of_decodeText {α : Type} {decode : Decoder α} {s : String} {a : α}
    (decoded : decodeText decode s = .value a) :
    ∃ d, d.isProper = true ∧ decode d = .value a := by
  have proper := Document.isProper_read s.toList
  unfold decodeText at decoded
  split at decoded
  · rename_i read
    rw [read] at proper
    exact ⟨_, proper, decoded⟩
  · obtain ⟨b, -, fault⟩ := Decoded.of_bind_eq_value decoded
    cases fault
  · obtain ⟨b, -, fault⟩ := Decoded.of_bind_eq_value decoded
    cases fault

end EntityGateway
