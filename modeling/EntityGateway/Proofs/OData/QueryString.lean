import EntityGateway.OData.Printer
import EntityGateway.Proofs.Text.Form

/-!
# The options in a query string

A query string is decoded to the options as they were before their values were form-coded, one after
the other. So what a reader of the decoded text meets can be told from the options: the continuation
stands after the columns and the limit, and before the order and the filter.
-/

namespace EntityGateway

theorem Text.not_mem_separated {c : Char} {separator : List Char} {items : List (List Char)}
    (apart : c ∉ separator) (absent : ∀ item ∈ items, c ∉ item) :
    c ∉ separated separator items := by
  cases items with
  | nil => exact List.not_mem_nil
  | cons first rest =>
      obtain ⟨absentFirst, absentRest⟩ := List.forall_mem_cons.mp absent
      refine List.not_mem_append absentFirst fun among => ?_
      obtain ⟨item, memItem, memText⟩ := List.mem_flatMap.mp among
      exact List.not_mem_append apart (absentRest item memItem) memText

namespace OData.Options

open Text (IsPlainName plainPair plainPairs)

variable {o : Options}

theorem mem_optionIf {present : Bool} {name value : String} {pair : String × String}
    (among : pair ∈ optionIf present name value) : pair = (name, value) := by
  cases present with
  | false => exact absurd among List.not_mem_nil
  | true => exact List.mem_singleton.mp among

theorem name_of_mem_pairs {pair : String × String} (among : pair ∈ o.pairs) :
    pair.1 ∈ ["$count", "$select", "$top", "$skiptoken", "$orderby", "$filter"] := by
  simp only [pairs, List.mem_cons, List.mem_append, List.mem_map] at among
  rcases among with rfl | (((select | ⟨n, -, rfl⟩) | ⟨t, -, rfl⟩) | order) | ⟨e, -, rfl⟩
  any_goals simp only [List.mem_cons, true_or, or_true]
  · simp only [mem_optionIf select, true_or, or_true]
  · simp only [mem_optionIf order, true_or, or_true]

theorem isPlainName_of_mem_pairs : ∀ pair ∈ o.pairs, IsPlainName pair.1 := by
  have plainNames : ∀ name ∈ ["$count", "$select", "$top", "$skiptoken", "$orderby", "$filter"],
      IsPlainName name := by decide
  exact fun pair among => plainNames pair.1 (name_of_mem_pairs among)

/-- Decoding a query string gives the options as they were. -/
theorem formDecode_queryString (o : Options) :
    Text.formDecode o.queryString = String.ofList (plainPairs o.pairs) :=
  Text.formDecode_formPairs isPlainName_of_mem_pairs

/-! ## The place of the continuation -/

/-- The options that stand between the first, for the number of all records, and the
continuation. -/
def earlierPairs (o : Options) : List (String × String) :=
  optionIf (!o.select.isEmpty) "$select" (commaSeparated (o.select.map String.toList)) ++
    o.top.toList.map fun n => ("$top", String.ofList (Nat.toDigits 10 n.toNat))

/-- The options that stand after the continuation. -/
def laterPairs (o : Options) : List (String × String) :=
  optionIf (!o.order.isEmpty) "$orderby" (commaSeparated (o.order.map Ordering.chars)) ++
    o.filter.toList.map fun e => ("$filter", e.text)

theorem pairs_of_continued {t : SkipToken} (continued : o.skipToken = some t) :
    o.pairs = ("$count", "true") :: (earlierPairs o ++ ("$skiptoken", t.text) :: laterPairs o) := by
  simp only [pairs, earlierPairs, laterPairs, continued, Option.toList_some, List.map_cons,
    List.map_nil, List.append_assoc, List.cons_append, List.nil_append]

/-- The decoded options up to the value of the continuation. -/
def beforeContinuation (o : Options) : List Char :=
  plainPair ("$count", "true") ++
    ((earlierPairs o).flatMap fun pair => '&' :: plainPair pair) ++ "&$skiptoken=".toList

theorem plainPairs_of_continued {t : SkipToken} (continued : o.skipToken = some t) :
    plainPairs o.pairs = beforeContinuation o ++
      (t.text.toList ++ (laterPairs o).flatMap fun pair => '&' :: plainPair pair) := by
  have name : "&$skiptoken=".toList = '&' :: ("$skiptoken".toList ++ ['=']) := by decide
  rw [pairs_of_continued continued, Text.plainPairs_cons, List.flatMap_append, List.flatMap_cons,
    beforeContinuation, name]
  simp only [plainPair, List.append_assoc, List.cons_append, List.nil_append]

theorem not_mem_plainPair {c : Char} {name value : String} (notInName : c ∉ name.toList)
    (other : c ≠ '=') (notInValue : c ∉ value.toList) : c ∉ plainPair (name, value) :=
  List.not_mem_append notInName (List.not_mem_cons_of_ne_of_not_mem other notInValue)

/-- A quote before the continuation would be one in the name of a column. -/
theorem noQuote_beforeContinuation (noQuote : ∀ name ∈ o.select, '\'' ∉ name.toList) :
    '\'' ∉ beforeContinuation o := by
  have earlier : ∀ pair ∈ earlierPairs o, '\'' ∉ plainPair pair := by
    intro pair among
    simp only [earlierPairs, List.mem_append, List.mem_map] at among
    rcases among with select | ⟨n, -, rfl⟩
    · obtain rfl := mem_optionIf select
      refine not_mem_plainPair (by decide) (by decide) ?_
      rw [commaSeparated, String.toList_ofList]
      exact Text.not_mem_separated (by decide) (List.forall_mem_map.mpr noQuote)
    · refine not_mem_plainPair (by decide) (by decide) fun among => ?_
      rw [String.toList_ofList] at among
      exact absurd (Nat.isDigit_of_mem_toDigits (by decide) (by decide) among) (by decide)
  refine List.not_mem_append (List.not_mem_append (by decide) fun among => ?_) (by decide)
  obtain ⟨pair, memEarlier, memText⟩ := List.mem_flatMap.mp among
  exact List.not_mem_cons_of_ne_of_not_mem (by decide) (earlier pair memEarlier) memText

end OData.Options

end EntityGateway
