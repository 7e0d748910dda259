import EntityGateway.Proofs.DocumentStore.Headers
import EntityGateway.Proofs.Text.Base64
import Mathlib.Tactic.SplitIfs

/-!
# What a signature is for

The text that is signed joins the method, the kind and the name of a resource and the date by line
breaks. The names come from the configuration and are not escaped, so a line break may stand in
them; but none stands in a date, in lower case neither, and what comes before the name of the
resource is the same for all queries. So the last line breaks of the text tell the name from the
date (`signedText_inj`): no two resources are signed by one text.

The signature itself is sent form-coded, in a token that is read back as it was made, whatever bytes
the signature has. There is a token for each key that is Base64, and for no other key
(`authorization?_bindsResource`).
-/

namespace EntityGateway

namespace Text

/-! ## Line breaks in lower case -/

theorem ofNat_eq_newline {n : Nat} (newline : Char.ofNat n = '\n') : n = 10 := by
  by_cases valid : n.isValidChar
  · rw [Char.ofNat, dif_pos valid] at newline
    exact congrArg Char.toNat newline
  · rw [Char.ofNat, dif_neg valid] at newline
    exact absurd newline (by decide)

/-- Every letter that has a lower-case letter is moved to a code point behind the line break. -/
theorem newline_lt_of_mem_lowered {row : Nat × Nat × Nat × Int} (member : row ∈ CaseTable.lowered) :
    10 < (row.1 : Int) + row.2.2.2 := by
  have all : CaseTable.lowered.all (fun row => 10 < (row.1 : Int) + row.2.2.2) = true := by
    decide +kernel
  exact of_decide_eq_true (List.all_eq_true.mp all row member)

theorem lowerChar_ne_newline {c : Char} (other : c ≠ '\n') : lowerChar c ≠ '\n' := by
  simp only [lowerChar]
  split
  · rename_i first last step shift found
    have moved : 10 < (first : Int) + shift :=
      newline_lt_of_mem_lowered (List.mem_of_find?_eq_some found)
    have inRun := List.find?_some found
    simp only [Bool.and_eq_true, decide_eq_true_eq] at inRun
    intro newline
    have code := ofNat_eq_newline newline
    omega
  · exact other

theorem newline_not_mem_lowercaseAfter {cs : List Char} (none : '\n' ∉ cs) (before : List Char) :
    '\n' ∉ lowercaseAfter before cs := by
  induction cs generalizing before with
  | nil => exact List.not_mem_nil
  | cons c rest ih =>
      obtain ⟨notFirst, notRest⟩ := not_or.mp (List.mem_cons.not.mp none)
      rw [lowercaseAfter]
      refine List.mem_append.not.mpr (not_or.mpr ⟨?_, ih notRest _⟩)
      split_ifs
      · decide
      · decide
      · decide
      · exact List.mem_singleton.not.mpr (lowerChar_ne_newline (Ne.symm notFirst)).symm

/-- Lower-casing makes no line breaks. -/
theorem newline_not_mem_lowercase {s : String} (none : '\n' ∉ s.toList) :
    '\n' ∉ (lowercase s).toList := by
  rw [lowercase, String.toList_ofList]
  exact newline_not_mem_lowercaseAfter none []

/-- Texts are taken apart at the last place of a character. -/
theorem append_cons_inj_of_last {c : Char} {as bs xs ys : List Char} (xsWithout : c ∉ xs)
    (ysWithout : c ∉ ys) (same : as ++ c :: xs = bs ++ c :: ys) : as = bs ∧ xs = ys := by
  have notLonger {more us vs : List Char} (without : c ∉ us) (rest : c :: us = more ++ c :: vs) :
      more = [] := by
    cases more with
    | nil => rfl
    | cons d more =>
        obtain ⟨-, rfl⟩ := List.cons.inj rest
        simp at without
  rcases List.append_eq_append_iff.mp same with ⟨more, rfl, rest⟩ | ⟨more, rfl, rest⟩
  · obtain rfl := notLonger xsWithout rest
    exact ⟨(List.append_nil as).symm, (List.cons.inj rest).2⟩
  · obtain rfl := notLonger ysWithout rest
    exact ⟨List.append_nil bs, (List.cons.inj rest).2.symm⟩

end Text

namespace DocumentStore

open Text (lowercase)

/-! ## The signed text -/

theorem newline_not_mem_headerDate (i : Instant) : '\n' ∉ i.headerDate.toList := by
  intro newline
  have text := isHeaderText_headerDate i '\n' newline
  cases text

/-- What is signed names the resource and the date, if no line break stands in the date. -/
theorem signedText_inj {verb type id id' date date' : String} (dateWithout : '\n' ∉ date.toList)
    (dateWithout' : '\n' ∉ date'.toList)
    (same : signedText verb type id date = signedText verb type id' date') :
    id = id' ∧ lowercase date = lowercase date' := by
  have chars := congrArg String.toList same
  simp only [signedText, String.toList_append] at chars
  have named := List.append_cancel_right chars
  simp only [List.append_assoc, List.append_cancel_left_eq] at named
  obtain ⟨ids, dates⟩ := Text.append_cons_inj_of_last
    (Text.newline_not_mem_lowercase dateWithout) (Text.newline_not_mem_lowercase dateWithout') named
  exact ⟨String.toList_inj.mp ids, String.toList_inj.mp dates⟩

/-! ## Tokens -/

/-- A token with a signature is read back as it was made. -/
theorem formDecode_formEncode_tokenText (signature : List UInt8) :
    Text.formDecode (Text.formEncode (tokenText signature)) =
      "type=master&ver=1.0&sig=" ++ Text.Base64.encode signature :=
  Text.formDecode_of_decodes (Text.decodes_formEncode (tokenText signature))

namespace Connection

/-- The text that is signed for a query against a collection. -/
def signedQuery (c : Connection) (collection : String) (now : Instant) : String :=
  signedText "POST" resourceType (c.resourceId collection) now.headerDate

/-- Queries are sent to the address of the account with the name of the resource as its path. -/
theorem documentsUrl_eq (c : Connection) (collection : String) :
    c.documentsUrl collection =
      Text.withoutSlashes c.uri ++ ("/" ++ c.resourceId collection ++ "/docs") := by
  simp only [documentsUrl, resourceType, String.append_assoc]
  rfl

end Connection

/-- There is a token exactly for the keys that are Base64. It consists of characters that form
coding leaves, it is read back as the encoded hash of the signed text under the bytes of the key,
and the signed text stands for one resource, which is the path of the address, and for one date in
lower case. The names in the text may be any, line breaks included. -/
theorem authorization?_bindsResource (c : Connection) (collection key : String) (now : Instant) :
    (authorization? "POST" resourceType (c.resourceId collection) now.headerDate key = none ↔
      ∀ keyBytes, key ≠ Text.Base64.encode keyBytes) ∧
    (∀ keyBytes, key = Text.Base64.encode keyBytes →
      ∃ token, authorization? "POST" resourceType (c.resourceId collection) now.headerDate key =
          some token ∧
        (∀ ch ∈ token.toList, Text.isFormChar ch = true) ∧
        Text.formDecode token = "type=master&ver=1.0&sig=" ++ Text.Base64.encode
          (Digest.hmacSha256 keyBytes (Text.bytes (c.signedQuery collection now)))) ∧
    ∀ (c' : Connection) (collection' : String) (now' : Instant),
      c.signedQuery collection now = c'.signedQuery collection' now' →
      c.resourceId collection = c'.resourceId collection' ∧
        (∃ path, path = "/" ++ c.resourceId collection ++ "/docs" ∧
          c.documentsUrl collection = Text.withoutSlashes c.uri ++ path ∧
          c'.documentsUrl collection' = Text.withoutSlashes c'.uri ++ path) ∧
        lowercase now.headerDate = lowercase now'.headerDate := by
  refine ⟨?_, ?_, ?_⟩
  · rw [authorization?, Option.map_eq_none_iff, Text.Base64.decode?_eq_none_iff]
  · intro keyBytes written
    refine ⟨_, ?_, Text.isFormChar_of_mem_formEncode _, formDecode_formEncode_tokenText _⟩
    rw [authorization?, Text.Base64.decode?_eq_some_iff.mpr written, Option.map_some]
    rfl
  · intro c' collection' now' same
    obtain ⟨ids, dates⟩ := signedText_inj (newline_not_mem_headerDate now)
      (newline_not_mem_headerDate now') same
    have address' := c'.documentsUrl_eq collection'
    rw [← ids] at address'
    exact ⟨ids, ⟨_, rfl, c.documentsUrl_eq collection, address'⟩, dates⟩

/-- A key of one byte, two databases whose collections have one name within their accounts, with a
line break in it, and two times within one second. -/
theorem authorization?_bindsResource_shared :
    let c : Connection := ⟨"https://one.example.com:443//", "+w==", "shop\ndocs/colls/old"⟩
    let c' : Connection := ⟨"https://two.example.com", "", "shop\ndocs"⟩
    ∃ later : Instant, later ≠ .epoch ∧ "+w==" = Text.Base64.encode [251] ∧
      c.signedQuery "books" .epoch = c'.signedQuery "old/colls/books" later ∧
      (∃ token, authorization? "POST" resourceType (c.resourceId "books")
          Instant.epoch.headerDate "+w==" = some token ∧
        (∀ ch ∈ token.toList, Text.isFormChar ch = true) ∧
        Text.formDecode token = "type=master&ver=1.0&sig=" ++ Text.Base64.encode
          (Digest.hmacSha256 [251] (Text.bytes (c.signedQuery "books" .epoch)))) ∧
      ∃ path, c.documentsUrl "books" = "https://one.example.com:443" ++ path ∧
        c'.documentsUrl "old/colls/books" = "https://two.example.com" ++ path := by
  intro c c'
  obtain ⟨later, isLater⟩ : ∃ i, Instant.of? 0 500_000_000 = some i := ⟨_, rfl⟩
  have key : "+w==" = Text.Base64.encode [251] := by decide
  have same : c.signedQuery "books" .epoch = c'.signedQuery "old/colls/books" later := by
    cases isLater
    decide +kernel
  obtain ⟨-, made, binds⟩ := authorization?_bindsResource c "books" "+w==" .epoch
  obtain ⟨-, ⟨path, -, address, address'⟩, -⟩ := binds c' "old/colls/books" later same
  have uri : Text.withoutSlashes c.uri = "https://one.example.com:443" := by decide
  have uri' : Text.withoutSlashes c'.uri = "https://two.example.com" := by decide
  rw [uri] at address
  rw [uri'] at address'
  refine ⟨later, ?_, key, same, made [251] key, path, address, address'⟩
  rintro rfl
  cases isLater

end DocumentStore

end EntityGateway
