import EntityGateway.Proofs.OData.QueryString
import EntityGateway.Proofs.Scan

/-!
# Options are read back from a query string

A query string is cut at each ampersand, each piece at its first equals sign, and what stands behind
that sign is decoded. This gives the options that were sent, whatever their values hold: the coding
leaves neither sign in a value, so that the only ones there are keep the options apart. Bytes that
are no text are refused here, unlike in the links of the service, so the decoded values are not
merely similar to what was sent.
-/

namespace EntityGateway

namespace Text

/-! ## A reader of form-coded pairs -/

/-- Undoes form coding: plus signs become blanks, then percent coding is undone and the bytes are
read as UTF-8. Bytes that are no text are refused. -/
def formDecode? (s : String) : Option String :=
  String.fromUTF8? ⟨(percentDecode (bytes (plusToBlank s))).toArray⟩

/-- A name and a value. The value is what stands behind the first equals sign. -/
def readPair? (piece : List Char) : Option (String × String) :=
  match scanWhile (· != '=') piece with
  | (name, '=' :: value) =>
    (formDecode? (String.ofList value)).map fun text => (String.ofList name, text)
  | _ => none

/-- Names and values with ampersands between them. -/
def readPairs? (s : String) : Option (List (String × String)) :=
  (s.toList.splitOn '&').mapM readPair?

theorem fromUTF8?_bytes (s : String) : String.fromUTF8? ⟨(bytes s).toArray⟩ = some s := by
  have data : (bytes s).toArray = s.toByteArray.data := by
    rw [bytes, String.toUTF8_eq_toByteArray, ByteArray.toList, toList_loop_eq]
    simp
  rw [data]
  exact dif_pos s.isValidUTF8

/-- A text that decodes to the bytes of another is decoded as it by the strict decoder too. -/
theorem formDecode?_of_decodes {s t : String} (decodes : Decodes s.toList (bytes t)) :
    formDecode? s = some t := by
  have read : percentDecode (bytes (plusToBlank s)) = bytes t := by
    rw [plusToBlank, bytes_eq_utf8, String.toList_map]
    simpa [withoutPlus, percentDecode] using decodes []
  rw [formDecode?, read, fromUTF8?_bytes]

/-- Every text is read back from its form coding. -/
theorem formDecode?_formEncode (s : String) : formDecode? (formEncode s) = some s :=
  formDecode?_of_decodes (decodes_formEncode s)

/-! ## The round trip -/

/-- A name neither ends before its equals sign nor runs into the next pair. -/
def IsKey (name : String) : Prop :=
  '=' ∉ name.toList ∧ '&' ∉ name.toList

instance (name : String) : Decidable (IsKey name) :=
  inferInstanceAs (Decidable (_ ∧ _))

/-- A pair with its value form-coded. -/
def codedPair (pair : String × String) : List Char :=
  pair.1.toList ++ '=' :: (formEncode pair.2).toList

/-- A pair is split at its first equals sign, as its name has none. -/
theorem readPair?_codedPair {pair : String × String} (key : IsKey pair.1) :
    readPair? (codedPair pair) = some pair := by
  have inName : ∀ c ∈ pair.1.toList, (c != '=') = true := fun c among =>
    bne_iff_ne.mpr (ne_of_mem_of_not_mem among key.1)
  have cut : scanWhile (· != '=') (codedPair pair) =
      (pair.1.toList, '=' :: (formEncode pair.2).toList) :=
    scanWhile_append inName (noneAhead_cons.mpr rfl)
  rw [readPair?, cut]
  simp only [String.ofList_toList, formDecode?_formEncode, Option.map_some]

theorem not_mem_formEncode {c : Char} (uncoded : isFormChar c = false) (s : String) :
    c ∉ (formEncode s).toList := fun among =>
  Bool.false_ne_true (uncoded.symm.trans (isFormChar_of_mem_formEncode s c among))

/-- No ampersand is written within a pair. -/
theorem noAmpersand_codedPair {pair : String × String} (key : IsKey pair.1) :
    '&' ∉ codedPair pair :=
  List.not_mem_append key.2
    (List.not_mem_cons_of_ne_of_not_mem (by decide) (not_mem_formEncode (by decide) pair.2))

theorem separated_singleton (c : Char) (items : List (List Char)) :
    separated [c] items = [c].intercalate items := by
  induction items with
  | nil => rfl
  | cons first items ih =>
      cases items with
      | nil => simp [separated]
      | cons second items =>
          rw [List.intercalate_cons_cons, ← ih]
          simp [separated]

/-- The pairs of a query string are what stands between its ampersands. -/
theorem splitOn_formPairs {pairs : List (String × String)} (some : pairs ≠ [])
    (keys : ∀ pair ∈ pairs, IsKey pair.1) :
    (formPairs pairs).toList.splitOn '&' = pairs.map codedPair := by
  have apart : ∀ piece ∈ pairs.map codedPair, '&' ∉ piece :=
    List.forall_mem_map.mpr fun pair among => noAmpersand_codedPair (keys pair among)
  rw [formPairs, String.toList_ofList, separated_singleton]
  exact List.splitOn_intercalate '&' apart (mt List.map_eq_nil_iff.mp some)

/-- Coded pairs are read back as they were, if their names keep clear of the two signs. -/
theorem readPairs?_formPairs {pairs : List (String × String)} (some : pairs ≠ [])
    (keys : ∀ pair ∈ pairs, IsKey pair.1) : readPairs? (formPairs pairs) = .some pairs := by
  rw [readPairs?, splitOn_formPairs some keys]
  clear some
  induction pairs with
  | nil => rfl
  | cons pair pairs ih =>
      obtain ⟨keyFirst, keysRest⟩ := List.forall_mem_cons.mp keys
      rw [List.map_cons, List.mapM_cons, readPair?_codedPair keyFirst, ih keysRest]
      rfl

end Text

namespace OData.Options

/-! ## The names of the options -/

/-- The names that options have, in the order in which they are sent. -/
def names : List String :=
  ["$count", "$select", "$top", "$skiptoken", "$orderby", "$filter"]

/-- The names tell which parts of the options are given. -/
structure Names (o : Options) (given : List String) : Prop where
  /-- They stand in one order, whichever of them are there. -/
  ordered : given.Sublist names
  distinct : given.Nodup
  select : "$select" ∈ given ↔ o.select ≠ []
  top : "$top" ∈ given ↔ o.top ≠ none
  skipToken : "$skiptoken" ∈ given ↔ o.skipToken ≠ none
  order : "$orderby" ∈ given ↔ o.order ≠ []
  filter : "$filter" ∈ given ↔ o.filter ≠ none

/-- A name that is there or not. -/
def nameIf (present : Bool) (name : String) : List String :=
  if present then [name] else []

theorem names_optionIf (present : Bool) (name value : String) :
    (optionIf present name value).map Prod.fst = nameIf present name := by
  cases present <;> rfl

theorem names_toList {α : Type} (given : Option α) (name : String) (value : α → String) :
    (given.toList.map fun a => (name, value a)).map Prod.fst = nameIf given.isSome name := by
  cases given <;> rfl

theorem nameIf_sublist (present : Bool) (name : String) : (nameIf present name).Sublist [name] := by
  cases present with
  | false => exact List.nil_sublist _
  | true => exact List.Sublist.refl _

theorem mem_nameIf {present : Bool} {name other : String} :
    other ∈ nameIf present name ↔ present = true ∧ other = name := by
  cases present <;> simp [nameIf]

/-- The names of the options in the order in which they are sent. -/
theorem names_pairs (o : Options) :
    o.pairs.map Prod.fst = "$count" :: (nameIf (!o.select.isEmpty) "$select" ++
      nameIf o.top.isSome "$top" ++ nameIf o.skipToken.isSome "$skiptoken" ++
      nameIf (!o.order.isEmpty) "$orderby" ++ nameIf o.filter.isSome "$filter") := by
  simp only [pairs, List.map_cons, List.map_append, names_optionIf, names_toList]

/-- An option is sent exactly if there is something to send, and the number of records is always
asked for. -/
theorem names_of_pairs (o : Options) : o.Names (o.pairs.map Prod.fst) := by
  have ordered : (o.pairs.map Prod.fst).Sublist names := by
    rw [names_pairs]
    exact .cons_cons _ ((((nameIf_sublist _ _).append (nameIf_sublist _ _)).append
      (nameIf_sublist _ _)).append (nameIf_sublist _ _) |>.append (nameIf_sublist _ _))
  refine ⟨ordered, ordered.nodup (by decide), ?_, ?_, ?_, ?_, ?_⟩
  all_goals
    rw [names_pairs]
    simp [mem_nameIf, Option.isSome_iff_ne_none]

/-- The names of the options have neither ampersands nor equals signs. -/
theorem isKey_of_mem_pairs {o : Options} : ∀ pair ∈ o.pairs, Text.IsKey pair.1 := by
  have keys : ∀ name ∈ names, Text.IsKey name := by decide
  exact fun pair among => keys pair.1 (name_of_mem_pairs among)

/-! ## The characters of a query string -/

/-- A character that query strings consist of. -/
def isQueryChar (c : Char) : Bool :=
  c.isAlphanum || c ∈ ['$', '&', '=', '%', '+', '*', '-', '.', '_']

theorem isQueryChar_of_isFormChar {c : Char} (coded : Text.isFormChar c = true) :
    isQueryChar c = true := by
  simp only [Text.isFormChar, Bool.or_eq_true, decide_eq_true_eq] at coded
  rcases coded with (((((letter | rfl) | rfl) | rfl) | rfl) | rfl) | rfl
  · rw [isQueryChar, letter, Bool.true_or]
  all_goals rfl

theorem isQueryChar_of_mem_codedPair {o : Options} :
    ∀ pair ∈ o.pairs, ∀ c ∈ Text.codedPair pair, isQueryChar c = true := by
  have nameChars : ∀ name ∈ names, name.toList.all isQueryChar = true := by decide
  intro pair member c among
  rcases List.mem_append.mp among with inName | inValue
  · exact List.all_eq_true.mp (nameChars pair.1 (name_of_mem_pairs member)) c inName
  · rcases List.mem_cons.mp inValue with rfl | inValue
    · rfl
    · exact isQueryChar_of_isFormChar (Text.isFormChar_of_mem_formEncode pair.2 c inValue)

/-- A query string is made of form-coded characters, the names of the options, and the signs between
them. -/
theorem isQueryChar_of_mem_queryString (o : Options) :
    ∀ c ∈ o.queryString.toList, isQueryChar c = true := by
  intro c among
  by_contra other
  -- such a character is neither the separator nor in a piece
  have apart : c ∉ ['&'] := by
    rintro (_ | ⟨_, ⟨⟩⟩)
    exact other rfl
  have absent : ∀ piece ∈ o.pairs.map Text.codedPair, c ∉ piece :=
    List.forall_mem_map.mpr fun pair member inside =>
      other (isQueryChar_of_mem_codedPair pair member c inside)
  rw [queryString, Text.formPairs, String.toList_ofList] at among
  exact Text.not_mem_separated apart absent among

/-- Options of whatever content are read from their query string as they were sent, name by name and
in order. Asking for the number of all records comes first; the other names stand in a fixed order,
each if and only if the options have that part. The string holds letters, digits and nine signs,
and nothing else. -/
theorem readPairs?_queryString (o : Options) :
    Text.readPairs? o.queryString = some o.pairs ∧
      o.pairs.head? = some ("$count", "true") ∧
      o.Names (o.pairs.map Prod.fst) ∧
      ∀ c ∈ o.queryString.toList, isQueryChar c = true :=
  ⟨Text.readPairs?_formPairs (List.cons_ne_nil _ _) isKey_of_mem_pairs, rfl, names_of_pairs o,
    isQueryChar_of_mem_queryString o⟩

end OData.Options

end EntityGateway
