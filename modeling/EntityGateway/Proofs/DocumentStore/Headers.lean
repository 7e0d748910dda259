import EntityGateway.DocumentStore.Client
import EntityGateway.Proofs.BareText
import EntityGateway.Proofs.Text.Form

/-!
# Queries to the document store can be sent

A request is sent only if its address has a host and no header value holds a control character. The
headers of a query are the signature, the date, some fixed texts and what asks for a page. All of
these are free of control characters, for every key, instant and page size, if the cookie is one
that a response named. So whether a query is sent depends on the address of the database alone.
-/

namespace EntityGateway

namespace Http

/-- A text that can be the value of a header. -/
def IsHeaderText (s : String) : Prop :=
  ∀ c ∈ s.toList, isHeaderChar c = true

instance (s : String) : Decidable (IsHeaderText s) :=
  decidable_of_iff (s.toList.all isHeaderChar = true) List.all_eq_true

theorem isHeaderText_ofList {cs : List Char} (parts : ∀ c ∈ cs, isHeaderChar c = true) :
    IsHeaderText (String.ofList cs) := by
  rwa [IsHeaderText, String.toList_ofList]

theorem IsHeaderText.append {s t : String} (first : IsHeaderText s) (second : IsHeaderText t) :
    IsHeaderText (s ++ t) := by
  rw [IsHeaderText, String.toList_append]
  exact List.forall_mem_append.mpr ⟨first, second⟩

end Http

namespace DocumentStore

open Http (IsHeaderText isHeaderChar isHeaderText_ofList isReadableChar)

theorem isHeaderChar_of_isReadableChar {c : Char} (readable : isReadableChar c = true) :
    isHeaderChar c = true := by
  simp only [isReadableChar, isHeaderChar, Bool.or_eq_true, Bool.and_eq_true, decide_eq_true_eq]
    at readable ⊢
  exact readable.imp_right fun range => ⟨range.1, Nat.ne_of_lt range.2⟩

theorem isHeaderChar_of_isAlphanum {c : Char} (alphanum : c.isAlphanum = true) :
    isHeaderChar c = true := by
  have classes : c.isAlphanum = (decide ('A'.val ≤ c.val ∧ c.val ≤ 'Z'.val) ||
      (decide ('a'.val ≤ c.val) && decide (c.val ≤ 'z'.val)) ||
        (decide ('0'.val ≤ c.val) && decide (c.val ≤ '9'.val))) := rfl
  have range : 0x30 ≤ c.toNat ∧ c.toNat ≤ 0x7A := by
    simp only [classes, Bool.or_eq_true, Bool.and_eq_true, decide_eq_true_eq,
      UInt32.le_iff_toNat_le, Char.toNat_val, Char.reduceToNat] at alphanum
    omega
  simp only [isHeaderChar, Bool.or_eq_true, Bool.and_eq_true, decide_eq_true_eq]
  omega

theorem isHeaderChar_of_isFormChar {c : Char} (coded : Text.isFormChar c = true) :
    isHeaderChar c = true := by
  simp only [Text.isFormChar, Bool.or_eq_true, decide_eq_true_eq] at coded
  rcases coded with (((((alphanum | rfl) | rfl) | rfl) | rfl) | rfl) | rfl
  · exact isHeaderChar_of_isAlphanum alphanum
  all_goals decide

theorem isHeaderChar_of_isBarePart {c : Char} (part : Text.isBarePart c = true) :
    isHeaderChar c = true := by
  simp only [Text.isBarePart, Bool.or_eq_true, decide_eq_true_eq] at part
  rcases part with ((((alphanum | rfl) | rfl) | rfl) | rfl) | rfl
  · exact isHeaderChar_of_isAlphanum alphanum
  all_goals decide

theorem isHeaderText_authorization {verb type id date key authorization : String}
    (signed : authorization? verb type id date key = some authorization) :
    IsHeaderText authorization := by
  obtain ⟨keyBytes, -, rfl⟩ := Option.map_eq_some_iff.mp signed
  exact fun c among => isHeaderChar_of_isFormChar (Text.isFormChar_of_mem_formEncode _ c among)

/-- An entry of a list of header texts, or no text at all. -/
theorem isHeaderText_getD {names : List String} (texts : ∀ name ∈ names, IsHeaderText name)
    (i : Nat) : IsHeaderText (names.getD i "") := by
  rw [List.getD_eq_getElem?_getD]
  cases entry : names[i]? with
  | none => exact (by decide : IsHeaderText "")
  | some name => exact texts name (List.mem_of_getElem? entry)

theorem isHeaderText_headerDate (i : Instant) : IsHeaderText i.headerDate := by
  have number (width n : Nat) : ∀ c ∈ Instant.padded width n, isHeaderChar c = true :=
    fun c among => isHeaderChar_of_isBarePart (Instant.isBarePart_of_mem_padded c among)
  have year (n : Int) : ∀ c ∈ Instant.yearChars n, isHeaderChar c = true :=
    fun c among => isHeaderChar_of_isBarePart (Instant.isBarePart_of_mem_yearChars c among)
  have weekday : IsHeaderText (Instant.weekdayNames.getD (Date.weekday i.days) "") :=
    isHeaderText_getD (by decide) _
  have day := isHeaderText_ofList (number 2 (Date.ofDays i.days).day)
  have month : IsHeaderText (Instant.monthNames.getD ((Date.ofDays i.days).month - 1) "") :=
    isHeaderText_getD (by decide) _
  have clock : ∀ c ∈ i.clockChars, isHeaderChar c = true := by
    simp only [Instant.clockChars, List.forall_mem_append, List.forall_mem_cons]
    exact ⟨⟨number _ _, by decide, number _ _⟩, by decide, number _ _⟩
  have yearAndClock : IsHeaderText
      (String.ofList (Instant.yearChars (Date.ofDays i.days).year ++ ' ' :: i.clockChars)) :=
    isHeaderText_ofList <| List.forall_mem_append.mpr
      ⟨year _, List.forall_mem_cons.mpr ⟨by decide, clock⟩⟩
  exact ((((((weekday.append (by decide)).append day).append (by decide)).append month).append
    (by decide)).append yearAndClock).append (by decide)

theorem isHeaderText_toDigits (n : Nat) : IsHeaderText (String.ofList (Nat.toDigits 10 n)) :=
  isHeaderText_ofList fun _ among => isHeaderChar_of_isAlphanum <|
    Bool.or_eq_true_iff.mpr <| .inr <| Nat.isDigit_of_mem_toDigits (by decide) (by decide) among

/-- The headers that ask for a page can be sent if the cookie can. -/
theorem isHeaderText_of_mem_pagingHeaders {number size : UInt32} {cookie : String}
    (text : IsHeaderText cookie) :
    ∀ header ∈ pagingHeaders (some ⟨number, size, some cookie⟩), IsHeaderText header.2 := by
  simp only [pagingHeaders, List.forall_mem_append]
  refine ⟨?_, ?_⟩
  · split
    · exact List.forall_mem_singleton.mpr (isHeaderText_toDigits _)
    · exact fun _ among => absurd among List.not_mem_nil
  · split
    · exact fun _ among => absurd among List.not_mem_nil
    · exact List.forall_mem_singleton.mpr text

/-- A query that continues a page can be sent wherever another query to the database can. -/
theorem isSendable_queryRequest {c : Connection}
    {collection verb type id date key authorization cookie : String}
    (signed : authorization? verb type id date key = some authorization)
    (reachable : Http.isReachable (c.documentsUrl collection) = true) (text : IsHeaderText cookie)
    (statement : String) (now : Instant) (number size : UInt32) :
    (queryRequest c collection authorization now.headerDate statement
      (some ⟨number, size, some cookie⟩)).isSendable = true := by
  have fixed : ∀ header ∈ [("x-ms-version", "2017-02-22"), ("x-ms-documentdb-isquery", "True"),
      ("content-type", "application/query+json")], IsHeaderText header.2 := by decide
  have headers : ∀ header ∈ (queryRequest c collection authorization now.headerDate statement
      (some ⟨number, size, some cookie⟩)).headers, IsHeaderText header.2 :=
    List.forall_mem_append.mpr ⟨List.forall_mem_cons.mpr ⟨isHeaderText_authorization signed,
      List.forall_mem_cons.mpr ⟨isHeaderText_headerDate now, fixed⟩⟩,
      isHeaderText_of_mem_pagingHeaders text⟩
  refine Bool.and_eq_true_iff.mpr ⟨reachable, List.all_eq_true.mpr fun header among => ?_⟩
  exact List.all_eq_true.mpr (headers header among)

/-- The cookie that a response names is not empty, and can be sent back. -/
theorem cookie_of_continuation? {r : Http.Response} {cookie : String}
    (named : continuation? r = some cookie) : cookie.isEmpty = false ∧ IsHeaderText cookie := by
  obtain ⟨value, found, named⟩ := Option.bind_eq_some_iff.mp named
  split_ifs at named with empty
  obtain rfl := Option.some.inj named
  refine ⟨Bool.eq_false_iff.mpr empty, fun c among => isHeaderChar_of_isReadableChar ?_⟩
  simp only [Http.Response.header?] at found
  split at found
  · split_ifs at found with readable
    obtain rfl := Option.some.inj found
    exact List.all_eq_true.mp readable c among
  · cases found

end DocumentStore

end EntityGateway
