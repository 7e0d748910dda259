import EntityGateway.Proofs.Json.Places
import EntityGateway.Proofs.Json.Words

/-!
# Reading what was written

The indented text of a value is read as the value, with places, if the value is legible: if its
numbers are integers of JSON, and if it does not nest too deep. The induction is on legibility, and
what carries it is that a value is read in front of every rest that does not go on like a number.
`decodeText_indented` says it of the text as a whole: whatever a decoder that ignores places makes
of the value, it makes of the value's text.
-/

namespace EntityGateway

open Json Scanner
open Text (NoneAhead NotAhead isNumeralPart noneAhead_cons scanWhile_append)

/-- A value of which the text says all: its numbers are integers of JSON, and its arrays and objects
nest no deeper than there is room for. -/
inductive Json.Legible : Nat → Json → Prop where
  | null {room : Nat} : Legible room .null
  | boolean {room : Nat} (b : Bool) : Legible room (.boolean b)
  | integer {room : Nat} {n : Int} (least : -(Nat.pow 2 63 : Int) ≤ n) (bound : n < Nat.pow 2 64) :
      Legible room (.integer n)
  | string {room : Nat} (s : String) : Legible room (.string s)
  | array {room : Nat} {items : List Json} (each : ∀ item ∈ items, Legible room item) :
      Legible (room + 1) (.array items)
  | object {room : Nat} {members : List (String × Json)}
      (each : ∀ member ∈ members, Legible room member.2) : Legible (room + 1) (.object members)

/-- Natural numbers of 64 bits are integers of JSON. -/
theorem Json.Legible.natural {room n : Nat} (bound : n < Nat.pow 2 64) :
    Legible room (.integer n) :=
  .integer (by omega) (Int.ofNat_lt.mpr bound)

/-! ## Between the words -/

/-- A string is written between quotes. -/
theorem Json.quoted_append (s : String) (rest : List Char) :
    quoted s ++ rest = '"' :: (s.toList.flatMap escapedChar ++ '"' :: rest) := by
  simp [quoted]

namespace Scanner

/-- Blanks are passed over up to the first character that is none. -/
theorem skipBlanks_append {blanks cs : List Char} (blank : ∀ c ∈ blanks, isBlank c = true)
    (visible : NoneAhead isBlank cs) : skipBlanks (blanks ++ cs) = cs := by
  have scanned := scanWhile_append blank visible
  exact (Prod.mk.inj scanned).2

/-- A line break and the indentation behind it are blanks. -/
theorem isBlank_newline (depth : Nat) : ∀ c ∈ newline depth, isBlank c = true := by
  intro c member
  rcases List.mem_cons.mp member with rfl | spaces
  · rfl
  · rw [List.eq_of_mem_replicate spaces]
    rfl

theorem skipBlanks_visible {c : Char} (visible : isBlank c = false) (cs : List Char) :
    skipBlanks (c :: cs) = c :: cs :=
  List.dropWhile_cons_of_neg (ne_true_of_eq_false visible)

/-- A new line is passed over, up to the next word. -/
theorem skipBlanks_newline (depth : Nat) {c : Char} (visible : isBlank c = false)
    (cs : List Char) : skipBlanks (newline depth ++ c :: cs) = c :: cs :=
  skipBlanks_append (isBlank_newline depth) (noneAhead_cons.mpr visible)

end Scanner

/-- A number begins with its sign or a digit. -/
theorem Json.exists_integerChars_eq_cons (n : Int) :
    ∃ c cs, integerChars n = c :: cs ∧ (c = '-' ∨ isDigit c = true) := by
  by_cases negative : n < 0
  · rw [integerChars, if_pos negative]
    exact ⟨_, _, rfl, .inl rfl⟩
  · rw [integerChars, if_neg negative]
    obtain ⟨c, cs, digits, digit⟩ := exists_digit_of_toDigits n.natAbs
    exact ⟨c, cs, digits, .inr digit⟩

theorem Scanner.ne_of_isDigit {c d : Char} (digit : isDigit c = true) (other : isDigit d = false) :
    c ≠ d := by
  rintro rfl
  rw [digit] at other
  cases other

theorem Scanner.isBlank_of_isDigit {c : Char} (digit : isDigit c = true) : isBlank c = false := by
  have different : c ≠ ' ' ∧ c ≠ '\n' ∧ c ≠ '\t' ∧ c ≠ '\r' :=
    ⟨ne_of_isDigit digit rfl, ne_of_isDigit digit rfl, ne_of_isDigit digit rfl,
      ne_of_isDigit digit rfl⟩
  simp [isBlank, different]

/-- What begins a value is no blank and does not end an array. -/
theorem Json.Legible.exists_indentedChars_eq_cons {room : Nat} {j : Json} (legible : j.Legible room)
    (depth : Nat) :
    ∃ c cs, j.indentedChars depth = c :: cs ∧ isBlank c = false ∧ c ≠ ']' := by
  cases legible with
  | null | string => exact ⟨_, _, rfl, rfl, by decide⟩
  | boolean b => cases b <;> exact ⟨_, _, rfl, rfl, by decide⟩
  | @integer _ n =>
      obtain ⟨c, cs, written, rfl | digit⟩ := exists_integerChars_eq_cons n
      · exact ⟨_, cs, written, rfl, by decide⟩
      · exact ⟨c, cs, written, isBlank_of_isDigit digit, ne_of_isDigit digit rfl⟩
  | @array _ items => cases items <;> exact ⟨_, _, rfl, rfl, by decide⟩
  | @object _ members => cases members <;> exact ⟨_, _, rfl, rfl, by decide⟩

/-! ## Values -/

/-- The indented text of the value is read as the value, in front of every rest that does not go on
like a number. -/
def Json.ReadsBack (room : Nat) (j : Json) : Prop :=
  ∀ (depth fuel : Nat) (rest : List Char), 2 * (j.indentedChars depth).length ≤ fuel + 1 →
    NoneAhead isNumeralPart rest →
    ∃ d, Document.readValue (fuel + 1) room (j.indentedChars depth ++ rest) = (d, .ok rest) ∧
      d.unplaced = j.toDocument

namespace Json.ReadsBack

variable {room : Nat}

/-- The word for null is read back. -/
theorem null : ReadsBack room .null :=
  fun _ _ _ _ _ => ⟨.null _, rfl, rfl⟩

/-- Truth values are read back. -/
theorem boolean : (b : Bool) → ReadsBack room (.boolean b)
  | true => fun _ _ _ _ _ => ⟨.boolean _ true, rfl, rfl⟩
  | false => fun _ _ _ _ _ => ⟨.boolean _ false, rfl, rfl⟩

/-- Texts are read back, with all of their escapes. -/
theorem string (s : String) : ReadsBack room (.string s) := by
  intro depth fuel rest _ _
  have read := WrittenString.read_escaped s rest
  refine ⟨.string ((s.toList.flatMap escapedChar ++ '"' :: rest).length + 1) (.ok s), ?_, rfl⟩
  rw [indentedChars, quoted_append, Document.readValue, if_pos rfl, read]

/-- Integers that sixty-four bits are enough for are read back. -/
theorem integer {n : Int} (least : -(Nat.pow 2 63 : Int) ≤ n) (bound : n < Nat.pow 2 64) :
    ReadsBack room (.integer n) := by
  intro depth fuel rest _ stops
  obtain ⟨numeral, scanned, value⟩ := scanNumber_integerChars least bound stops
  obtain ⟨c, cs, written, begins⟩ := exists_integerChars_eq_cons n
  have noQuote : c ≠ '"' := by
    rcases begins with rfl | digit
    · decide
    · exact ne_of_isDigit digit rfl
  rw [written, List.cons_append] at scanned
  refine ⟨.integer ((cs ++ rest).length + 1) n, ?_, rfl⟩
  rw [indentedChars, written, List.cons_append, Document.readValue, if_neg noQuote, if_pos begins,
    scanned, Document.ofNumber, value]

end Json.ReadsBack

/-! ## Items and members -/

namespace Document

variable {fuel room : Nat} {cs rest after : List Char} {d : Document}

/-- The last item of an array stands in front of the closing bracket. -/
theorem readItems_last (read : readValue fuel room cs = (d, .ok rest))
    (ends : skipBlanks rest = ']' :: after) :
    readItems (fuel + 1) room cs = (.cons d (.closed (after.length + 1)), .ok after) := by
  rw [readItems, read]
  dsimp only
  rw [ends]
  rfl

/-- Behind an item and a comma stand the other items. -/
theorem readItems_comma (read : readValue fuel room cs = (d, .ok rest))
    (goesOn : skipBlanks rest = ',' :: after) :
    readItems (fuel + 1) room cs =
      (.cons d (readItems fuel room (skipBlanks after)).1,
        (readItems fuel room (skipBlanks after)).2) := by
  rw [readItems, read]
  dsimp only
  rw [goesOn]
  rfl

variable (name : String) {colon : List Char}

/-- The last member of an object stands in front of the closing brace. -/
theorem readMembers_last (colonNext : skipBlanks cs = ':' :: colon)
    (read : readValue fuel room (skipBlanks colon) = (d, .ok rest))
    (ends : skipBlanks rest = '}' :: after) :
    ∃ place place' place'' last,
      readMembers (fuel + 1) room (quoted name ++ cs) =
        (.cons place (.ok name) place' d place'' (.closed last), .ok after) := by
  simp only [quoted_append, readMembers, WrittenString.read_escaped, colonNext, read, ends]
  exact ⟨_, _, _, _, rfl⟩

/-- Behind a member and a comma stand the other members. -/
theorem readMembers_comma (colonNext : skipBlanks cs = ':' :: colon)
    (read : readValue fuel room (skipBlanks colon) = (d, .ok rest))
    (goesOn : skipBlanks rest = ',' :: after) :
    ∃ place place' place'',
      readMembers (fuel + 1) room (quoted name ++ cs) =
        (.cons place (.ok name) place' d place'' (readMembers fuel room (skipBlanks after)).1,
          (readMembers fuel room (skipBlanks after)).2) := by
  simp only [quoted_append, readMembers, WrittenString.read_escaped, colonNext, read, goesOn]
  exact ⟨_, _, _, rfl⟩

end Document

namespace Json

variable {room depth : Nat}

/-- A line end does not go on like a number. -/
theorem noneAhead_newline (depth : Nat) (rest : List Char) :
    NoneAhead isNumeralPart (newline depth ++ rest) :=
  noneAhead_cons.mpr rfl

/-- A value stands behind the indentation of its line. -/
theorem Legible.skipBlanks_newline {j : Json} (legible : j.Legible room) (depth : Nat)
    (rest : List Char) :
    skipBlanks (newline depth ++ (j.indentedChars depth ++ rest)) =
      j.indentedChars depth ++ rest := by
  obtain ⟨c, cs, begins, visible, -⟩ := legible.exists_indentedChars_eq_cons depth
  rw [begins]
  exact Scanner.skipBlanks_newline depth visible _

theorem Legible.skipBlanks_space {j : Json} (legible : j.Legible room) {depth : Nat}
    {rest : List Char} :
    skipBlanks (' ' :: (j.indentedChars depth ++ rest)) = j.indentedChars depth ++ rest := by
  obtain ⟨c, cs, begins, visible, -⟩ := legible.exists_indentedChars_eq_cons depth
  rw [begins]
  have space : ∀ c ∈ [' '], isBlank c = true := by simp [isBlank]
  exact skipBlanks_append space (noneAhead_cons.mpr visible)

/-- The items of an array are read back up to the closing bracket, if each of them is read back by
itself. -/
theorem exists_readItems (rest : List Char) {first : Json} {others : List Json}
    (legible : ∀ item ∈ first :: others, item.Legible room)
    (reads : ∀ item ∈ first :: others, item.ReadsBack room) {fuel : Nat}
    (enough : 2 * (first.indentedChars (depth + 1) ++ indentedItems depth others).length ≤
      fuel + 2) :
    ∃ items, Document.readItems (fuel + 2) room
        (first.indentedChars (depth + 1) ++ (indentedItems depth others ++ rest)) =
          (items, .ok rest) ∧
      items.unplaced = toItems (first :: others) := by
  induction others generalizing first fuel with
  | nil =>
      simp only [indentedItems, List.length_append, List.length_singleton] at enough
      obtain ⟨d, read, unplaced⟩ := reads first List.mem_cons_self (depth + 1) fuel
        (newline depth ++ ']' :: rest) (by omega) (noneAhead_newline depth _)
      have ends : skipBlanks (newline depth ++ ']' :: rest) = ']' :: rest :=
        Scanner.skipBlanks_newline depth rfl rest
      rw [indentedItems, List.append_assoc, List.singleton_append,
        Document.readItems_last read ends]
      refine ⟨_, rfl, ?_⟩
      rw [Items.unplaced, unplaced]
      rfl
  | cons second others ih =>
      obtain ⟨firstReads, othersRead⟩ := List.forall_mem_cons.mp reads
      obtain ⟨-, othersLegible⟩ := List.forall_mem_cons.mp legible
      simp only [indentedItems, newline, List.length_append, List.length_cons] at enough ih
      obtain ⟨fuel, rfl⟩ : ∃ n, fuel = n + 1 := ⟨fuel - 1, by omega⟩
      have enoughForOthers : 2 * ((second.indentedChars (depth + 1)).length +
          (indentedItems depth others).length) ≤ fuel + 2 := by omega
      obtain ⟨items, readOthers, unplacedOthers⟩ := ih othersLegible othersRead enoughForOthers
      obtain ⟨d, read, unplaced⟩ := firstReads (depth + 1) (fuel + 1)
        (',' :: (newline (depth + 1) ++ (second.indentedChars (depth + 1) ++
          (indentedItems depth others ++ rest)))) (by omega) (noneAhead_cons.mpr rfl)
      have goesOn := skipBlanks_visible (c := ',') rfl (newline (depth + 1) ++
        (second.indentedChars (depth + 1) ++ (indentedItems depth others ++ rest)))
      have next := (othersLegible second List.mem_cons_self).skipBlanks_newline (depth + 1)
        (indentedItems depth others ++ rest)
      simp only [indentedItems, List.cons_append, List.append_assoc]
      rw [Document.readItems_comma read goesOn, next, readOthers]
      refine ⟨_, rfl, ?_⟩
      rw [Items.unplaced, unplaced, unplacedOthers]
      rfl

/-- A member of an object that stands at some depth. -/
def memberChars (depth : Nat) (member : String × Json) : List Char :=
  quoted member.1 ++ ':' :: ' ' :: member.2.indentedChars (depth + 1)

theorem indentedMembers_cons (depth : Nat) (member : String × Json)
    (others : List (String × Json)) :
    indentedMembers depth (member :: others) =
      ',' :: newline (depth + 1) ++ memberChars depth member ++ indentedMembers depth others := by
  simp [indentedMembers, memberChars]

theorem skipBlanks_memberChars (depth : Nat) (member : String × Json) (rest : List Char) :
    skipBlanks (newline (depth + 1) ++ (memberChars depth member ++ rest)) =
      memberChars depth member ++ rest :=
  Scanner.skipBlanks_newline (depth + 1) (c := '"') rfl _

/-- The members of an object are read back up to the closing brace, if each value is read back by
itself. -/
theorem exists_readMembers (rest : List Char) {first : String × Json}
    {others : List (String × Json)}
    (legible : ∀ member ∈ first :: others, member.2.Legible room)
    (reads : ∀ member ∈ first :: others, member.2.ReadsBack room) {fuel : Nat}
    (enough : 2 * (memberChars depth first ++ indentedMembers depth others).length ≤ fuel + 2) :
    ∃ members, Document.readMembers (fuel + 2) room
        (memberChars depth first ++ (indentedMembers depth others ++ rest)) =
          (members, .ok rest) ∧
      members.unplaced = toMembers (first :: others) := by
  induction others generalizing first fuel with
  | nil =>
      have firstLegible := legible first List.mem_cons_self
      simp only [memberChars, indentedMembers, List.length_append, List.length_cons,
        List.length_nil] at enough
      obtain ⟨d, read, unplaced⟩ := reads first List.mem_cons_self (depth + 1) fuel
        (newline depth ++ '}' :: rest) (by omega) (noneAhead_newline depth _)
      rw [← firstLegible.skipBlanks_space] at read
      have ends : skipBlanks (newline depth ++ '}' :: rest) = '}' :: rest :=
        Scanner.skipBlanks_newline depth rfl rest
      obtain ⟨_, _, _, _, all⟩ :=
        Document.readMembers_last first.1 (skipBlanks_visible rfl _) read ends
      rw [memberChars, indentedMembers, List.append_assoc, List.append_assoc]
      refine ⟨_, all, ?_⟩
      rw [Members.unplaced, unplaced]
      rfl
  | cons second others ih =>
      have firstLegible := legible first List.mem_cons_self
      obtain ⟨-, othersLegible⟩ := List.forall_mem_cons.mp legible
      obtain ⟨firstReads, othersRead⟩ := List.forall_mem_cons.mp reads
      simp only [indentedMembers_cons, newline, List.length_append, List.length_cons] at enough ih
      obtain ⟨fuel, rfl⟩ : ∃ n, fuel = n + 1 := ⟨fuel - 1, by omega⟩
      have enoughForOthers : 2 * ((memberChars depth second).length +
          (indentedMembers depth others).length) ≤ fuel + 2 := by omega
      obtain ⟨members, readOthers, unplacedOthers⟩ := ih othersLegible othersRead enoughForOthers
      rw [memberChars, List.length_append, List.length_cons, List.length_cons] at enough
      obtain ⟨d, read, unplaced⟩ := firstReads (depth + 1) (fuel + 1)
        (',' :: (newline (depth + 1) ++ (memberChars depth second ++
          (indentedMembers depth others ++ rest)))) (by omega) (noneAhead_cons.mpr rfl)
      rw [← firstLegible.skipBlanks_space] at read
      have goesOn := skipBlanks_visible (c := ',') rfl (newline (depth + 1) ++
        (memberChars depth second ++ (indentedMembers depth others ++ rest)))
      obtain ⟨_, _, _, all⟩ :=
        Document.readMembers_comma first.1 (skipBlanks_visible rfl _) read goesOn
      rw [skipBlanks_memberChars, readOthers] at all
      rw [indentedMembers_cons]
      simp only [memberChars, List.cons_append, List.append_assoc] at all ⊢
      refine ⟨_, all, ?_⟩
      rw [Members.unplaced, unplaced, unplacedOthers]
      rfl

end Json

/-- A bracket opens an array, unless another closes it at once. -/
theorem Document.readValue_bracket {fuel room : Nat} {cs start rest : List Char} {items : Items}
    (begun : skipBlanks cs = start) (goesOn : NotAhead ']' start)
    (read : readItems fuel room start = (items, .ok rest)) :
    readValue (fuel + 1) (room + 1) ('[' :: cs) = (.array (cs.length + 1) items, .ok rest) := by
  rw [readValue.eq_3]
  cases start with
  | nil => simp [isDigit, begun, read]
  | cons c start =>
      have other : c ≠ ']' := by simpa using goesOn
      simp [isDigit, begun, other, read]

/-- A brace opens an object, unless another closes it at once. -/
theorem Document.readValue_brace {fuel room : Nat} {cs start rest : List Char} {members : Members}
    (begun : skipBlanks cs = start) (goesOn : NotAhead '}' start)
    (read : readMembers fuel room start = (members, .ok rest)) :
    readValue (fuel + 1) (room + 1) ('{' :: cs) = (.object (cs.length + 1) members, .ok rest) := by
  rw [readValue.eq_3]
  cases start with
  | nil => simp [isDigit, begun, read]
  | cons c start =>
      have other : c ≠ '}' := by simpa using goesOn
      simp [isDigit, begun, other, read]

namespace Json.ReadsBack

variable {room : Nat}

/-- An array is read back if its items are. -/
theorem array {items : List Json} (legible : ∀ item ∈ items, item.Legible room)
    (reads : ∀ item ∈ items, item.ReadsBack room) : ReadsBack (room + 1) (.array items) := by
  intro depth fuel rest enough _
  cases items with
  | nil => exact ⟨.array _ (.closed _), rfl, rfl⟩
  | cons first others =>
      have firstLegible := legible first List.mem_cons_self
      simp only [indentedChars, newline, List.length_append, List.length_cons] at enough
      obtain ⟨fuel, rfl⟩ : ∃ n, fuel = n + 2 := ⟨fuel - 2, by omega⟩
      have enoughForItems : 2 * (first.indentedChars (depth + 1) ++
          indentedItems depth others).length ≤ fuel + 2 := by
        rw [List.length_append]
        omega
      obtain ⟨found, read, unplaced⟩ := exists_readItems rest legible reads enoughForItems
      obtain ⟨c, cs, begins, -, goesOn⟩ := firstLegible.exists_indentedChars_eq_cons (depth + 1)
      have next := firstLegible.skipBlanks_newline (depth + 1) (indentedItems depth others ++ rest)
      have noEnd : NotAhead ']' (first.indentedChars (depth + 1) ++
          (indentedItems depth others ++ rest)) := by
        rw [begins]
        exact noneAhead_cons.mpr (beq_eq_false_iff_ne.mpr goesOn)
      simp only [indentedChars, List.cons_append, List.append_assoc]
      rw [Document.readValue_bracket next noEnd read]
      refine ⟨_, rfl, ?_⟩
      rw [Document.unplaced, unplaced]
      rfl

/-- An object is read back if its members are. -/
theorem object {members : List (String × Json)}
    (legible : ∀ member ∈ members, member.2.Legible room)
    (reads : ∀ member ∈ members, member.2.ReadsBack room) :
    ReadsBack (room + 1) (.object members) := by
  intro depth fuel rest enough _
  cases members with
  | nil => exact ⟨.object _ (.closed _), rfl, rfl⟩
  | cons first others =>
      have written : (Json.object (first :: others)).indentedChars depth ++ rest =
          '{' :: (newline (depth + 1) ++ (memberChars depth first ++
            (indentedMembers depth others ++ rest))) := by
        simp [indentedChars, memberChars]
      simp only [indentedChars, newline, List.length_append, List.length_cons] at enough
      obtain ⟨fuel, rfl⟩ : ∃ n, fuel = n + 2 := ⟨fuel - 2, by omega⟩
      have enoughForMembers : 2 * (memberChars depth first ++
          indentedMembers depth others).length ≤ fuel + 2 := by
        simp only [memberChars, List.length_append, List.length_cons]
        omega
      obtain ⟨found, read, unplaced⟩ := exists_readMembers rest legible reads enoughForMembers
      have next := skipBlanks_memberChars depth first (indentedMembers depth others ++ rest)
      have goesOn : NotAhead '}' (memberChars depth first ++
          (indentedMembers depth others ++ rest)) := noneAhead_cons.mpr rfl
      rw [written, Document.readValue_brace next goesOn read]
      refine ⟨_, rfl, ?_⟩
      rw [Document.unplaced, unplaced]
      rfl

end Json.ReadsBack

/-- A legible value is read back. -/
theorem Json.Legible.readsBack {room : Nat} {j : Json} (legible : j.Legible room) :
    j.ReadsBack room := by
  induction legible with
  | null => exact ReadsBack.null
  | boolean b => exact ReadsBack.boolean b
  | integer least bound => exact ReadsBack.integer least bound
  | string s => exact ReadsBack.string s
  | array each ih => exact ReadsBack.array each ih
  | object each ih => exact ReadsBack.object each ih

/-! ## Whole texts -/

/-- What a decoder that ignores places makes of a value, it makes of the lines of the value. -/
theorem decodeText_indented {α : Type} {decode : Decoder α} (ignores : IgnoresPlaces decode)
    {j : Json} (legible : j.Legible Document.nestingLimit) {a : α}
    (decoded : decode j.toDocument = .value a) :
    decodeText decode (j.indented ++ "\n") = .value a := by
  have chars : (j.indented ++ "\n").toList = j.indentedChars 0 ++ ['\n'] := by
    rw [indented, String.toList_append, String.toList_ofList]
    rfl
  obtain ⟨c, cs, begins, visible, -⟩ := legible.exists_indentedChars_eq_cons 0
  have start : skipBlanks (j.indentedChars 0 ++ ['\n']) = j.indentedChars 0 ++ ['\n'] := by
    rw [begins]
    exact skipBlanks_visible visible _
  have enough : 2 * (j.indentedChars 0).length ≤
      2 * (j.indentedChars 0 ++ ['\n']).length + 1 + 1 := by
    rw [List.length_append]
    omega
  obtain ⟨d, read, unplaced⟩ := legible.readsBack 0 _ ['\n'] enough (noneAhead_cons.mpr rfl)
  have whole : Document.read (j.indented ++ "\n").toList = (d, .ok []) := by
    rw [chars, Document.read, start, read]
    rfl
  rw [← unplaced] at decoded
  rw [decodeText, whole]
  exact ignores d a decoded

end EntityGateway
