import EntityGateway.OData.Compile
import EntityGateway.Proofs.OData.QueryString
import EntityGateway.Proofs.Outcome
import EntityGateway.Proofs.Scan
import EntityGateway.RemoteService.PagingCookie

/-!
# Paging cookies come back as they went out

A cookie is what stands in single quotes after its name in a decoded link. In the query string of a
request the cookie stands in the same form, so it can be searched for there as well. The search
takes the first place that fits. Before the continuation only a number stands in quotes, so that no
other place comes first: `firstCookie?_passes` goes over a part up to a quote, and what an option
after the continuation holds does not matter. Decoding gives the options as they were, so the cookie
that is found is the one that was handed in.
-/

namespace EntityGateway.RemoteService

open OData (Options SkipToken)

/-- The text can stand between single quotes on one line. -/
structure IsQuotable (cs : List Char) : Prop where
  noQuote : '\'' ∉ cs
  noLineFeed : '\n' ∉ cs

theorem isQuotable_of_upToQuote? {cs cookie : List Char} (found : upToQuote? cs = some cookie) :
    IsQuotable cookie := by
  induction cs generalizing cookie with
  | nil => exact nomatch found
  | cons c cs ih =>
      rw [upToQuote?] at found
      split_ifs at found with quote lineFeed
      · obtain rfl := Option.some.inj found
        exact ⟨List.not_mem_nil, List.not_mem_nil⟩
      · obtain ⟨rest, restFound, rfl⟩ := Option.map_eq_some_iff.mp found
        have quotable := ih restFound
        exact ⟨List.not_mem_cons_of_ne_of_not_mem (Ne.symm quote) quotable.noQuote,
          List.not_mem_cons_of_ne_of_not_mem (Ne.symm lineFeed) quotable.noLineFeed⟩

/-- A cookie without quotes and line feeds ends at the quote behind it. -/
theorem upToQuote?_append {cookie : List Char} (quotable : IsQuotable cookie) (rest : List Char) :
    upToQuote? (cookie ++ '\'' :: rest) = some cookie := by
  induction cookie with
  | nil => rfl
  | cons c cookie ih =>
      obtain ⟨notQuote, noQuote⟩ := List.ne_and_not_mem_of_not_mem_cons quotable.noQuote
      obtain ⟨notLineFeed, noLineFeed⟩ := List.ne_and_not_mem_of_not_mem_cons quotable.noLineFeed
      rw [List.cons_append, upToQuote?, if_neg (Ne.symm notQuote), if_neg (Ne.symm notLineFeed),
        ih ⟨noQuote, noLineFeed⟩]
      rfl

/-! ## The search -/

/-- What is found in a link has neither quotes nor line feeds. -/
theorem isQuotable_of_firstCookie? {cs cookie : List Char}
    (found : firstCookie? cs = some cookie) : IsQuotable cookie := by
  induction cs with
  | nil => exact nomatch found
  | cons c cs ih =>
      rw [firstCookie?] at found
      split_ifs at found with begins
      · split at found
        · next read =>
            obtain rfl := Option.some.inj found
            exact isQuotable_of_upToQuote? read
        · exact ih found
      · exact ih found

/-- A cookie holds no quote and no line feed. -/
theorem isQuotable_of_pagingCookie? {link cookie : String}
    (found : pagingCookie? link = some cookie) : IsQuotable cookie.toList := by
  obtain ⟨cs, read, rfl⟩ := Option.map_eq_some_iff.mp found
  rw [String.toList_ofList]
  exact isQuotable_of_firstCookie? read

theorem firstCookie?_of_begins {cs cookie : List Char} (begins : cookieStart <+: cs)
    (closed : upToQuote? (cs.drop cookieStart.length) = some cookie) :
    firstCookie? cs = some cookie := by
  cases cs with
  | nil => exact absurd begins (by decide)
  | cons c cs => rw [firstCookie?, if_pos (List.isPrefixOf_iff_prefix.mpr begins), closed]

theorem firstCookie?_of_not_begins {c : Char} {cs : List Char}
    (other : ¬ cookieStart <+: c :: cs) : firstCookie? (c :: cs) = firstCookie? cs := by
  rw [firstCookie?, if_neg (mt List.isPrefixOf_iff_prefix.mp other)]

/-- A cookie at the front is found, if its closing quote follows on the same line. -/
theorem firstCookie?_found {cookie : List Char} (quotable : IsQuotable cookie) (rest : List Char) :
    firstCookie? (cookieStart ++ (cookie ++ '\'' :: rest)) = some cookie := by
  refine firstCookie?_of_begins (List.prefix_append _ _) ?_
  rw [List.drop_left, upToQuote?_append quotable]

theorem not_begins_of_ne {c : Char} {cs : List Char} (other : c ≠ 'p') :
    ¬ cookieStart <+: c :: cs := by
  have start : cookieStart = 'p' :: "agingcookie='".toList := by decide
  rw [start, List.cons_prefix_cons]
  exact fun begins => other begins.1.symm

/-- What stands before a cookie and its quote. -/
def cookieName : List Char := "pagingcookie=".toList

theorem cookieStart_eq : cookieStart = cookieName ++ ['\''] := by decide

/-- The part of a text before its first quote. -/
theorem scanWhile_beforeQuote {before : List Char} (noQuote : '\'' ∉ before) (rest : List Char) :
    Text.scanWhile (· != '\'') (before ++ '\'' :: rest) = (before, '\'' :: rest) :=
  Text.scanWhile_append (fun _ among => bne_iff_ne.mpr (ne_of_mem_of_not_mem among noQuote))
    (by simp)

/-- No cookie starts at the front, if the text before the first quote ends otherwise. -/
theorem not_begins_of_endsOtherwise {before rest : List Char} (noQuote : '\'' ∉ before)
    (endsOtherwise : ¬ cookieName <:+ before) : ¬ cookieStart <+: before ++ '\'' :: rest := by
  rintro ⟨after, whole⟩
  rw [cookieStart_eq, List.append_assoc, List.singleton_append] at whole
  -- The start of a cookie ends with its only quote, so both sides have their first quote there.
  have firstQuote := congrArg (Text.scanWhile (· != '\'')) whole
  rw [scanWhile_beforeQuote noQuote, scanWhile_beforeQuote (by decide)] at firstQuote
  exact endsOtherwise ((Prod.mk.inj firstQuote).1 ▸ List.suffix_refl _)

/-- The search goes over a text up to its first quote, if no cookie starts with this quote. -/
theorem firstCookie?_passes {before : List Char} (noQuote : '\'' ∉ before)
    (endsOtherwise : ¬ cookieName <:+ before) (rest : List Char) :
    firstCookie? (before ++ '\'' :: rest) = firstCookie? rest := by
  induction before with
  | nil => exact firstCookie?_of_not_begins (not_begins_of_endsOtherwise noQuote endsOtherwise)
  | cons c before ih =>
      have endsOtherwiseAfter : ¬ cookieName <:+ before := fun ends =>
        endsOtherwise (ends.trans (List.suffix_cons c before))
      have other : ¬ cookieStart <+: c :: (before ++ '\'' :: rest) :=
        not_begins_of_endsOtherwise noQuote endsOtherwise
      rw [List.cons_append, firstCookie?_of_not_begins other,
        ih (List.not_mem_of_not_mem_cons noQuote) endsOtherwiseAfter]

/-! ## The continuation among the options -/

/-- The characters of a continuation: two texts in quotes, and texts without quotes around them. -/
theorem toList_text (t : SkipToken) :
    t.text.toList = "<cookie pagenumber=".toList ++ '\'' ::
      (Nat.toDigits 10 t.pageNumber.toNat ++ '\'' :: ' ' ::
        (cookieStart ++ (t.cookie.toList ++ '\'' :: " istracking='False' />".toList))) := by
  have numberOpens : "<cookie pagenumber='".toList = "<cookie pagenumber=".toList ++ ['\''] := by
    decide
  have cookieOpens : "' pagingcookie='".toList = '\'' :: ' ' :: cookieStart := by decide
  have cookieCloses : "' istracking='False' />".toList =
      '\'' :: " istracking='False' />".toList := by decide
  unfold SkipToken.text
  rw [String.toList_append, String.toList_append, String.toList_append, String.toList_append,
    numberOpens, cookieOpens, cookieCloses,
    String.toList_ofList (l := Nat.toDigits 10 t.pageNumber.toNat)]
  simp only [List.append_assoc, List.cons_append, List.nil_append]

/-- The search goes over a number and finds the cookie after it. -/
theorem firstCookie?_text (t : SkipToken) (quotable : IsQuotable t.cookie.toList)
    {before : List Char} (noQuote : '\'' ∉ before) (rest : List Char) :
    firstCookie? (before ++ (t.text.toList ++ rest)) = some t.cookie.toList := by
  have digits : ∀ c ∈ Nat.toDigits 10 t.pageNumber.toNat, c.isDigit = true := fun c among =>
    Nat.isDigit_of_mem_toDigits (by decide) (by decide) among
  have noQuoteFirst : '\'' ∉ before ++ "<cookie pagenumber=".toList :=
    List.not_mem_append noQuote (by decide)
  have firstEndsOtherwise : ¬ cookieName <:+ before ++ "<cookie pagenumber=".toList := by
    intro ends
    exact absurd (List.suffix_of_suffix_length_le ends (List.suffix_append before _) (by decide))
      (by decide)
  have noQuoteNumber : '\'' ∉ Nat.toDigits 10 t.pageNumber.toNat := fun among =>
    absurd (digits _ among) (by decide)
  have numberEndsOtherwise : ¬ cookieName <:+ Nat.toDigits 10 t.pageNumber.toNat := fun ends =>
    absurd (digits '=' (ends.mem (by decide))) (by decide)
  rw [toList_text, List.append_assoc, ← List.append_assoc before, List.cons_append,
    firstCookie?_passes noQuoteFirst firstEndsOtherwise, List.append_assoc, List.cons_append,
    firstCookie?_passes noQuoteNumber numberEndsOtherwise, List.cons_append,
    firstCookie?_of_not_begins (not_begins_of_ne (by decide)), List.append_assoc, List.append_assoc,
    List.cons_append, firstCookie?_found quotable]

/-- The cookie of a continuation is found in the query string. -/
theorem pagingCookie?_queryString {o : Options} {t : SkipToken}
    (continued : o.skipToken = some t) (quotable : IsQuotable t.cookie.toList)
    (noQuote : ∀ name ∈ o.select, '\'' ∉ name.toList) :
    pagingCookie? o.queryString = some t.cookie := by
  rw [pagingCookie?, OData.Options.formDecode_queryString, String.toList_ofList,
    OData.Options.plainPairs_of_continued continued,
    firstCookie?_text t quotable (OData.Options.noQuote_beforeContinuation noQuote)]
  exact congrArg some String.ofList_toList

/-! ## The round trip -/

/-- The continuation of the options depends on nothing but the paging of the query. -/
theorem skipToken_of_ofQuery {m : EntityMetadata} {q : Query} {o : Options}
    (compiled : Options.ofQuery m q = .ok o) : o.skipToken = OData.skipTokenOf q.paging := by
  obtain ⟨select, -, compiled⟩ := ok_of_bind_eq_ok compiled
  obtain ⟨order, -, compiled⟩ := ok_of_bind_eq_ok compiled
  obtain ⟨filter, -, compiled⟩ := ok_of_bind_eq_ok compiled
  exact (congrArg Options.skipToken (Except.ok.inj compiled)).symm

theorem skipTokenOf_of_cookie {cookie : String} (given : cookie ≠ "") (number size : UInt32) :
    OData.skipTokenOf (some ⟨number, size, some cookie⟩) = some ⟨number, cookie⟩ :=
  if_neg (mt String.isEmpty_iff.mp given)

/-- A cookie that is taken from a link holds no quote and no line feed. Each such cookie that is not
empty, whatever else it holds, is taken from the query string of every query that continues with it,
as it was handed in. So what one link names is what the next request asks for. -/
theorem pagingCookie?_roundTrip :
    (∀ link cookie, pagingCookie? link = some cookie → IsQuotable cookie.toList) ∧
    (∀ m q options number size cookie, Options.ofQuery m q = .ok options →
      q.paging = some ⟨number, size, some cookie⟩ → cookie ≠ "" → IsQuotable cookie.toList →
      (∀ name ∈ options.select, '\'' ∉ name.toList) →
      pagingCookie? options.queryString = some cookie) ∧
    ∀ link m q options number size cookie, pagingCookie? link = some cookie → cookie ≠ "" →
      Options.ofQuery m q = .ok options → q.paging = some ⟨number, size, some cookie⟩ →
      (∀ name ∈ options.select, '\'' ∉ name.toList) →
      pagingCookie? options.queryString = pagingCookie? link := by
  have handedBack (m q options number size cookie)
      (compiled : Options.ofQuery m q = .ok options)
      (asked : q.paging = some ⟨number, size, some cookie⟩) (given : cookie ≠ "")
      (quotable : IsQuotable cookie.toList)
      (noQuote : ∀ name ∈ options.select, '\'' ∉ name.toList) :
      pagingCookie? options.queryString = some cookie := by
    have continued : options.skipToken = some ⟨number, cookie⟩ := by
      rw [skipToken_of_ofQuery compiled, asked, skipTokenOf_of_cookie given]
    exact pagingCookie?_queryString continued quotable noQuote
  refine ⟨fun link cookie found => isQuotable_of_pagingCookie? found, handedBack, ?_⟩
  intro link m q options number size cookie found given compiled asked noQuote
  rw [found]
  exact handedBack m q options number size cookie compiled asked given
    (isQuotable_of_pagingCookie? found) noQuote

/-- An entity of a remote service. -/
def shelfEntity : EntityMetadata where
  logicalName := "book"
  externalName := "book"
  externalCollectionName := "books"
  primaryIdAttribute := "id"
  attributes := [⟨"id", "bookid", .uniqueidentifier⟩, ⟨"title", "title+%27", .string⟩]

/-- A query that continues with a cookie full of characters of the coding, and whose filter looks
for a text that looks like a cookie. -/
def misleadingQuery : Query where
  entity := "book"
  columnSet := .only ["title"]
  criteria := .all [.condition ⟨"title", .equal, [.string "pagingcookie='other'"]⟩]
  orders := []
  top := some 2
  paging := some ⟨2, 2, some "%3c a=1&b+日%"⟩

/-- A link to the page that `misleadingQuery` asks for. -/
def misleadingLink : String :=
  "?pagingcookie=%27%253c+a=1%26b%2b日%25%27"

/-- A cookie with an escape in it, in a link that is coded itself, and a filter that looks like a
continuation. -/
theorem pagingCookie?_misleadingQuery :
    pagingCookie? misleadingLink = some "%3c a=1&b+日%" ∧
    IsQuotable "%3c a=1&b+日%".toList ∧
    ∃ options, Options.ofQuery shelfEntity misleadingQuery = .ok options ∧
      pagingCookie? options.queryString = some "%3c a=1&b+日%" ∧
      pagingCookie? options.queryString = pagingCookie? misleadingLink := by
  obtain ⟨quotable, handedBack, roundTrip⟩ := pagingCookie?_roundTrip
  have found : pagingCookie? misleadingLink = some "%3c a=1&b+日%" := by decide +kernel
  have fromLink := quotable misleadingLink _ found
  refine ⟨found, fromLink, _, rfl, ?_, ?_⟩
  · exact handedBack shelfEntity misleadingQuery _ 2 2 _ rfl rfl (by decide) fromLink (by decide)
  · exact roundTrip misleadingLink shelfEntity misleadingQuery _ 2 2 _ found (by decide) rfl rfl
      (by decide)

end EntityGateway.RemoteService
