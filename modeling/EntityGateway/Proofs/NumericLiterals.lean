import EntityGateway.Proofs.Agreement
import EntityGateway.Proofs.BareText
import EntityGateway.Proofs.OData.Compiled
import Mathlib.Data.List.Chain

/-!
# Numeric literals

What is written for a number stands bare in a query, so it has to be a numeric literal of the query
languages: `IsNumericLiteral` is their grammar. Every number that has a type of its own is written
as one. A number that a caller sent as text is written as the caller's text, and the reader that
checks it takes more than the grammar has: underscores behind the first digit, and a plus sign
behind the minus sign of an exponent. A text without either is a numeric literal, and no other
accepted text is (`isNumericLiteral_iff_of_numericText?`).
-/

namespace EntityGateway

namespace Text

/-! ## The grammar -/

/-- Every character is a decimal digit. -/
def AllDigits (cs : List Char) : Prop :=
  ∀ c ∈ cs, c.isDigit = true

/-- One sign or none. -/
def IsSign (cs : List Char) : Prop :=
  cs = [] ∨ cs = ['+'] ∨ cs = ['-']

/-- Digits with at most one point among them, and at least one digit. -/
def IsUnsigned (cs : List Char) : Prop :=
  ∃ whole point fraction, cs = whole ++ point ++ fraction ∧ AllDigits whole ∧
    (point = [] ∨ point = ['.']) ∧ AllDigits fraction ∧ whole ++ fraction ≠ []

/-- Nothing, or a mark with a sign or none and digits. -/
def IsExponent (cs : List Char) : Prop :=
  cs = [] ∨ ∃ mark sign digits, cs = mark :: (sign ++ digits) ∧ (mark = 'e' ∨ mark = 'E') ∧
    IsSign sign ∧ AllDigits digits ∧ digits ≠ []

/-- A numeric literal: a sign or none, digits with at most one point, and an exponent or none. -/
def IsNumericLiteral (cs : List Char) : Prop :=
  ∃ sign mantissa exponent, cs = sign ++ mantissa ++ exponent ∧ IsSign sign ∧
    IsUnsigned mantissa ∧ IsExponent exponent

/-- No plus sign stands right behind a minus sign. -/
def NoDoubleSign (cs : List Char) : Prop :=
  cs.IsChain fun c d => ¬ (c = '-' ∧ d = '+')

/-- The text has none of what readers of numbers put up with and the grammar does not have. -/
structure IsTidy (cs : List Char) : Prop where
  noUnderscore : '_' ∉ cs
  noDoubleSign : NoDoubleSign cs

instance (cs : List Char) : Decidable (IsTidy cs) :=
  decidable_of_iff ('_' ∉ cs ∧ cs.IsChain fun c d => ¬ (c = '-' ∧ d = '+'))
    ⟨fun h => ⟨h.1, h.2⟩, fun h => ⟨h.1, h.2⟩⟩

/-! ### Parts of literals -/

theorem allDigits_nil : AllDigits [] := by
  simp [AllDigits]

theorem AllDigits.cons {c : Char} {cs : List Char} (digit : c.isDigit = true)
    (digits : AllDigits cs) : AllDigits (c :: cs) :=
  List.forall_mem_cons.mpr ⟨digit, digits⟩

theorem AllDigits.append {cs ds : List Char} (first : AllDigits cs) (second : AllDigits ds) :
    AllDigits (cs ++ ds) :=
  List.forall_mem_append.mpr ⟨first, second⟩

theorem allDigits_zeros (n : Nat) : AllDigits (List.replicate n '0') := by
  intro c member
  rw [List.eq_of_mem_replicate member]
  decide

theorem allDigits_toDigits (n : Nat) : AllDigits (Nat.toDigits 10 n) :=
  fun _ member => Nat.isDigit_of_mem_toDigits (by decide) (by decide) member

/-- What is no digit is not among digits. -/
theorem AllDigits.not_mem {cs : List Char} (digits : AllDigits cs) {c : Char}
    (other : c.isDigit = false) : c ∉ cs := by
  intro member
  rw [digits c member] at other
  cases other

/-- Digits without a point are a number without a sign. -/
theorem AllDigits.isUnsigned {cs : List Char} (digits : AllDigits cs) (visible : cs ≠ []) :
    IsUnsigned cs :=
  ⟨cs, [], [], by simp, digits, .inl rfl, allDigits_nil, by simpa using visible⟩

/-- Digits may stand on either side of the point, as long as there is one. -/
theorem AllDigits.isUnsigned_point {whole fraction : List Char} (before : AllDigits whole)
    (behind : AllDigits fraction) (visible : whole ++ fraction ≠ []) :
    IsUnsigned (whole ++ '.' :: fraction) :=
  ⟨whole, ['.'], fraction, by simp, before, .inr rfl, behind, visible⟩

/-- A point may be put anywhere among digits. -/
theorem AllDigits.withPoint {cs : List Char} (digits : AllDigits cs) (visible : cs ≠ []) (n : Nat) :
    IsUnsigned (cs.take n ++ '.' :: cs.drop n) := by
  refine AllDigits.isUnsigned_point (fun c member => digits c (List.mem_of_mem_take member))
    (fun c member => digits c (List.mem_of_mem_drop member)) ?_
  rwa [List.take_append_drop]

/-- A number without a sign and an exponent is a numeric literal. -/
theorem IsUnsigned.isNumericLiteral {cs : List Char} (unsigned : IsUnsigned cs) :
    IsNumericLiteral cs :=
  ⟨[], cs, [], by simp, .inl rfl, unsigned, .inl rfl⟩

/-- A minus sign may stand in front of a number. -/
theorem IsUnsigned.isNumericLiteral_minus {cs : List Char} (unsigned : IsUnsigned cs) :
    IsNumericLiteral ('-' :: cs) :=
  ⟨['-'], cs, [], by simp, .inr (.inr rfl), unsigned, .inl rfl⟩

/-! ### Literals are tidy -/

theorem noDoubleSign_of_not_mem_minus {cs : List Char} (none : '-' ∉ cs) : NoDoubleSign cs :=
  List.Pairwise.isChain (List.pairwise_of_forall_mem_list fun _ member _ _ pair =>
    none (pair.1 ▸ member))

theorem noDoubleSign_of_not_mem_plus {cs : List Char} (none : '+' ∉ cs) : NoDoubleSign cs :=
  List.Pairwise.isChain (List.pairwise_of_forall_mem_list fun _ _ _ member pair =>
    none (pair.2 ▸ member))

/-- A sign in front of what has none is the only one. -/
theorem IsSign.noDoubleSign_append {sign cs : List Char} (isSign : IsSign sign)
    (noPlus : '+' ∉ cs) (noMinus : '-' ∉ cs) : NoDoubleSign (sign ++ cs) := by
  rcases isSign with rfl | rfl | rfl
  · exact noDoubleSign_of_not_mem_plus noPlus
  · exact noDoubleSign_of_not_mem_minus (by simpa using noMinus)
  · exact noDoubleSign_of_not_mem_plus (by simpa using noPlus)

theorem IsSign.not_mem_underscore {sign : List Char} (isSign : IsSign sign) : '_' ∉ sign := by
  rcases isSign with rfl | rfl | rfl <;> decide

/-- A number without a sign is made of digits and points only. -/
theorem IsUnsigned.not_mem {cs : List Char} (unsigned : IsUnsigned cs) {c : Char}
    (other : c.isDigit = false) (notPoint : c ≠ '.') : c ∉ cs := by
  obtain ⟨whole, point, fraction, rfl, before, isPoint, behind, -⟩ := unsigned
  have none : c ∉ point := by
    rcases isPoint with rfl | rfl
    · exact List.not_mem_nil
    · simpa using notPoint
  simp only [List.mem_append, not_or]
  exact ⟨⟨before.not_mem other, none⟩, behind.not_mem other⟩

/-- An exponent has one sign at most, and no underscore. -/
theorem IsExponent.isTidy {cs : List Char} (exponent : IsExponent cs) : IsTidy cs := by
  rcases exponent with rfl | ⟨mark, sign, digits, rfl, isMark, isSign, allDigits, -⟩
  · exact ⟨List.not_mem_nil, .nil⟩
  · have signed : NoDoubleSign (sign ++ digits) :=
      isSign.noDoubleSign_append (allDigits.not_mem (by decide)) (allDigits.not_mem (by decide))
    have marked : mark ≠ '_' ∧ mark ≠ '-' := by
      rcases isMark with rfl | rfl <;> decide
    refine ⟨?_, List.isChain_cons.mpr ⟨fun _ _ pair => marked.2 pair.1, signed⟩⟩
    simp only [List.mem_cons, List.mem_append, not_or]
    exact ⟨marked.1.symm, isSign.not_mem_underscore, allDigits.not_mem (by decide)⟩

theorem IsExponent.head?_ne_plus {cs : List Char} (exponent : IsExponent cs) :
    ∀ c ∈ cs.head?, c ≠ '+' := by
  rcases exponent with rfl | ⟨mark, sign, digits, rfl, isMark, -⟩
  · simp
  · rcases isMark with rfl | rfl <;> simp

/-- A numeric literal has no underscore and never two signs in a row. -/
theorem IsNumericLiteral.isTidy {cs : List Char} (isLiteral : IsNumericLiteral cs) : IsTidy cs := by
  obtain ⟨sign, mantissa, exponent, rfl, isSign, unsigned, isExponent⟩ := isLiteral
  have signed : NoDoubleSign (sign ++ mantissa) :=
    isSign.noDoubleSign_append (unsigned.not_mem (by decide) (by decide))
      (unsigned.not_mem (by decide) (by decide))
  refine ⟨?_, List.isChain_append.mpr ⟨signed, isExponent.isTidy.noDoubleSign, ?_⟩⟩
  · simp only [List.mem_append, not_or]
    exact ⟨⟨isSign.not_mem_underscore, unsigned.not_mem (by decide) (by decide)⟩,
      isExponent.isTidy.noUnderscore⟩
  · intro c _ d first pair
    exact isExponent.head?_ne_plus d first pair.2

end Text

open Text

/-! ## Written numbers -/

/-- Integers are written as numeric literals. -/
theorem isNumericLiteral_integerChars (n : Int) : IsNumericLiteral (Sql.integerChars n) := by
  have digits := (allDigits_toDigits n.natAbs).isUnsigned Nat.toDigits_ne_nil
  unfold Sql.integerChars
  split
  · exact digits.isNumericLiteral_minus
  · exact digits.isNumericLiteral

theorem Double.Digits.isUnsigned_positional (d : Double.Digits) : IsUnsigned (d.positional []) := by
  have digits := allDigits_toDigits d.digits
  have visible : Nat.toDigits 10 d.digits ≠ [] := Nat.toDigits_ne_nil
  simp only [Double.Digits.positional, List.append_nil]
  split
  · exact (digits.append (allDigits_zeros _)).isUnsigned (by simp)
  · split
    · exact digits.withPoint visible _
    · exact AllDigits.isUnsigned_point (allDigits_nil.cons (by decide : '0'.isDigit = true))
        ((allDigits_zeros _).append digits) (List.cons_ne_nil _ _)

/-- Doubles that are finite are written as numeric literals, without an exponent. -/
theorem Double.isNumericLiteral_plain {d : Double} (finite : d.isFinite = true) :
    IsNumericLiteral d.plain := by
  have size : IsUnsigned (plainLayout.write (d.shortest plainLayout.tie)) := by
    simpa [Layout.write, plainLayout] using Digits.isUnsigned_positional _
  simp only [Double.plain, finite, if_true, Layout.writeFinite]
  split
  · exact size.isNumericLiteral_minus
  · exact size.isNumericLiteral

/-- Decimals are written as numeric literals. -/
theorem Decimal.isNumericLiteral_text (d : Decimal) : IsNumericLiteral d.text.toList := by
  have unsigned : IsUnsigned (unsignedChars d.mantissa d.scale) := by
    have padded := (allDigits_zeros (d.scale + 1 - (Nat.toDigits 10 d.mantissa).length)).append
      (allDigits_toDigits d.mantissa)
    simp only [unsignedChars]
    split
    · exact padded.isUnsigned (by simp)
    · exact padded.withPoint (by simp) _
  rw [Decimal.text, String.toList_ofList, Decimal.chars]
  split
  · exact unsigned.isNumericLiteral_minus
  · exact unsigned.isNumericLiteral

/-! ## Numbers that callers write -/

namespace Decimal

theorem isDigit_of_isIgnoredDigit {c : Char} (ignored : isIgnoredDigit c = true)
    (other : c ≠ '_') : c.isDigit = true := by
  simp only [isIgnoredDigit, Bool.or_eq_true, Option.isSome_iff_exists, decide_eq_true_eq]
    at ignored
  obtain ⟨n, read⟩ := ignored.resolve_right other
  exact isDigit_of_digit? read

/-- What a reader passes over is digits, but for underscores. -/
theorem allDigits_of_ignored {cs : List Char} (ignored : cs.all isIgnoredDigit = true)
    (plain : '_' ∉ cs) : AllDigits cs := by
  intro c member
  refine isDigit_of_isIgnoredDigit (List.all_eq_true.mp ignored c member) ?_
  rintro rfl
  exact plain member

/-- What is read as the digits of a decimal consists of digits with a point among them, unless one
was seen before, and of at least one digit, unless one was seen before. -/
theorem parts_of_tidyDigits {negative : Bool} {p : Partial} {cs : List Char} {d : Decimal}
    (read : readDigits? negative p cs = some d) (plain : '_' ∉ cs) :
    ∃ whole point fraction, cs = whole ++ point ++ fraction ∧ AllDigits whole ∧
      (point = [] ∨ point = ['.'] ∧ p.pointSeen = false) ∧ AllDigits fraction ∧
      (p.digitSeen = false → whole ++ fraction ≠ []) := by
  induction cs generalizing p with
  | nil =>
      refine ⟨[], [], [], rfl, allDigits_nil, .inl rfl, allDigits_nil, fun unseen => ?_⟩
      simp [readDigits?, unseen] at read
  | cons c rest ih =>
      have plainRest : '_' ∉ rest := fun member => plain (List.mem_cons_of_mem c member)
      rw [readDigits?] at read
      cases digitRead : digit? c with
      | some n =>
          have digit := isDigit_of_digit? digitRead
          have behind {seen : Partial} (read : readDigits? negative seen rest = some d)
              (point_eq : seen.pointSeen = p.pointSeen) :
              ∃ whole point fraction, c :: rest = whole ++ point ++ fraction ∧ AllDigits whole ∧
                (point = [] ∨ point = ['.'] ∧ p.pointSeen = false) ∧ AllDigits fraction ∧
                (p.digitSeen = false → whole ++ fraction ≠ []) := by
            obtain ⟨whole, point, fraction, rfl, before, isPoint, after, -⟩ := ih read plainRest
            exact ⟨c :: whole, point, fraction, rfl, before.cons digit, point_eq ▸ isPoint, after,
              fun _ => List.cons_ne_nil _ _⟩
          simp only [digitRead] at read
          split at read
          · split at read
            · split at read
              · rename_i ignored
                have digits := (allDigits_of_ignored ignored plainRest).cons digit
                exact ⟨c :: rest, [], [], by simp, digits, .inl rfl, allDigits_nil,
                  fun _ => List.cons_ne_nil _ _⟩
              · cases read
            · exact behind read rfl
          · split at read
            · cases read
            · exact behind read rfl
      | none =>
          simp only [digitRead] at read
          split at read
          · rename_i point
            obtain ⟨rfl, unseen⟩ := point
            obtain ⟨whole, point, fraction, rfl, before, isPoint, after, visible⟩ :=
              ih read plainRest
            -- behind the point there is no other
            obtain rfl : point = [] :=
              isPoint.resolve_right fun another => Bool.noConfusion another.2
            refine ⟨[], ['.'], whole ++ fraction, by simp, allDigits_nil, .inr ⟨rfl, unseen⟩,
              before.append after, visible⟩
          · split at read
            · rename_i underscore
              obtain ⟨rfl, -⟩ := underscore
              exact absurd List.mem_cons_self plain
            · cases read

/-- Without underscores, the digits of a decimal that is read have a digit and at most one point. -/
theorem isUnsigned_of_readDigits? {negative : Bool} {cs : List Char} {d : Decimal}
    (read : readDigits? negative {} cs = some d) (plain : '_' ∉ cs) : IsUnsigned cs := by
  obtain ⟨whole, point, fraction, parts, before, isPoint, behind, visible⟩ :=
    parts_of_tidyDigits read plain
  exact ⟨whole, point, fraction, parts, before, isPoint.imp_right And.left, behind, visible rfl⟩

/-- Without underscores, a plain decimal is a sign or none and a number. -/
theorem signed_of_readPlain? {cs : List Char} {d : Decimal} (read : readPlain? cs = some d)
    (plain : '_' ∉ cs) :
    ∃ sign mantissa, cs = sign ++ mantissa ∧ IsSign sign ∧ IsUnsigned mantissa := by
  simp only [readPlain?] at read
  split at read
  · rename_i rest
    have unsigned := isUnsigned_of_readDigits? read fun member =>
      plain (List.mem_cons_of_mem _ member)
    exact ⟨['-'], rest, rfl, .inr (.inr rfl), unsigned⟩
  · rename_i rest
    have unsigned := isUnsigned_of_readDigits? read fun member =>
      plain (List.mem_cons_of_mem _ member)
    exact ⟨['+'], rest, rfl, .inr (.inl rfl), unsigned⟩
  · exact ⟨[], cs, rfl, .inl rfl, isUnsigned_of_readDigits? read plain⟩

/-- The digits of an exponent may have a plus sign. -/
theorem digits_of_readExponent? {cs : List Char} {n : Nat} (read : readExponent? cs = some n) :
    ∃ sign digits, cs = sign ++ digits ∧ (sign = [] ∨ sign = ['+']) ∧ AllDigits digits ∧
      digits ≠ [] := by
  have allDigits {digits : List Char}
      (folded : digits.foldl (fun (value : Option Nat) c => do
        let v ← value
        let d ← digit? c
        some (v * 10 + d)) (some 0) = some n) : AllDigits digits := by
    refine forall_of_foldl_eq_some (fun _ => rfl) (fun value c r stepped => ?_) folded
    obtain ⟨digit, digitRead, -⟩ :=
      Option.bind_eq_some_iff.mp (show (digit? c).bind _ = some r from stepped)
    exact isDigit_of_digit? digitRead
  simp only [readExponent?, Option.ite_none_left_eq_some, Bool.not_eq_true] at read
  split at read
  · rename_i digits
    exact ⟨['+'], digits, rfl, .inr rfl, allDigits read.2, List.isEmpty_eq_false_iff.mp read.1⟩
  · exact ⟨[], cs, rfl, .inl rfl, allDigits read.2, List.isEmpty_eq_false_iff.mp read.1⟩

/-- A tidy text that is read by its exponent is a numeric literal. -/
theorem isNumericLiteral_of_readScientific? {cs : List Char} {d : Decimal}
    (read : readScientific? cs = some d) (tidy : IsTidy cs) : IsNumericLiteral cs := by
  simp only [readScientific?, Option.bind_eq_bind, Option.bind_eq_some_iff] at read
  obtain ⟨mantissa, mantissaRead, read⟩ := read
  generalize behind_eq : cs.dropWhile (fun c => !(c = 'e' || c = 'E')) = behind at read
  have parts := List.takeWhile_append_dropWhile (p := fun c => !(c = 'e' || c = 'E')) (l := cs)
  rw [behind_eq] at parts
  have tidyBehind : NoDoubleSign behind :=
    (List.isChain_append.mp (parts ▸ tidy.noDoubleSign)).2.1
  obtain ⟨sign, unsigned, mantissa_eq, isSign, isUnsigned⟩ :=
    signed_of_readPlain? mantissaRead fun member =>
      tidy.noUnderscore ((List.takeWhile_prefix _).subset member)
  rw [mantissa_eq] at parts
  refine ⟨sign, unsigned, behind, parts.symm, isSign, isUnsigned, .inr ?_⟩
  have isMark {mark : Char} {rest : List Char} (begins : behind = mark :: rest) :
      mark = 'e' ∨ mark = 'E' := by
    have atMark := List.head?_dropWhile_not (fun c => !(c = 'e' || c = 'E')) cs
    simpa only [behind_eq, begins, List.head?_cons, Bool.not_eq_false', Bool.or_eq_true,
      decide_eq_true_eq] using atMark
  split at read
  · rename_i mark rest
    obtain ⟨exponent, exponentRead, -⟩ := Option.bind_eq_some_iff.mp read
    obtain ⟨plus, digits, rfl, isPlus, allDigits, visible⟩ := digits_of_readExponent? exponentRead
    -- a plus sign behind the minus sign is what a tidy text does not have
    obtain rfl : plus = [] := isPlus.resolve_right fun isPlus => by
      simp [isPlus, NoDoubleSign] at tidyBehind
    exact ⟨mark, ['-'], digits, rfl, isMark rfl, .inr (.inr rfl), allDigits, visible⟩
  · rename_i mark rest _
    obtain ⟨exponent, exponentRead, -⟩ := Option.bind_eq_some_iff.mp read
    obtain ⟨plus, digits, rfl, isPlus, allDigits, visible⟩ := digits_of_readExponent? exponentRead
    exact ⟨mark, plus, digits, rfl, isMark rfl, isPlus.imp_right .inl, allDigits, visible⟩
  · cases read

/-- A tidy text that is read as a decimal is a numeric literal. -/
theorem isNumericLiteral_of_read? {s : String} {d : Decimal} (read : Decimal.read? s = some d)
    (tidy : IsTidy s.toList) : IsNumericLiteral s.toList := by
  simp only [Decimal.read?] at read
  cases plain : readPlain? s.toList with
  | some _ =>
      obtain ⟨sign, mantissa, parts, isSign, unsigned⟩ :=
        signed_of_readPlain? plain tidy.noUnderscore
      exact ⟨sign, mantissa, [], by simpa using parts, isSign, unsigned, .inl rfl⟩
  | none => exact isNumericLiteral_of_readScientific? (by simpa [plain] using read) tidy

end Decimal

/-- Of the texts that are taken for numbers, exactly the tidy ones are numeric literals. -/
theorem isNumericLiteral_iff_of_numericText? {s t : String} (read : numericText? s = some t) :
    IsNumericLiteral t.toList ↔ IsTidy t.toList := by
  obtain ⟨d, decimalRead, rfl⟩ := Option.map_eq_some_iff.mp read
  exact ⟨IsNumericLiteral.isTidy, Decimal.isNumericLiteral_of_read? decimalRead⟩

/-! ## Compiled numbers -/

/-- How a value is written for a number: as a numeric literal if it has a type of its own, and as
what the caller wrote, without the blanks around it, if it is a text. The text is a numeric literal
exactly if it is tidy. -/
structure WrittenNumber (v : Value) (cs : List Char) : Prop where
  typed : (∀ s, v ≠ .string s) → IsNumericLiteral cs
  verbatim : ∀ s, v = .string s → cs = (trim s).toList
  isNumericLiteral_iff : IsNumericLiteral cs ↔ IsTidy cs

namespace WrittenNumber

variable {v : Value}

theorem ofLiteral {cs : List Char} (isLiteral : IsNumericLiteral cs)
    (number : v.isNumberOrJson = true) : WrittenNumber v cs where
  typed _ := isLiteral
  verbatim s isText := by
    subst isText
    cases number
  isNumericLiteral_iff := ⟨IsNumericLiteral.isTidy, fun _ => isLiteral⟩

/-- A text that is taken for a number is written as the caller wrote it. -/
theorem ofText {s t : String} (read : numericText? s = some t) :
    WrittenNumber (.string s) t.toList where
  typed noText := absurd rfl (noText s)
  verbatim s' same := by
    cases same
    obtain ⟨_, -, rfl⟩ := Option.map_eq_some_iff.mp read
    rfl
  isNumericLiteral_iff := isNumericLiteral_iff_of_numericText? read

end WrittenNumber

namespace Sql

theorem Literal.writtenNumber_of_ofNumber? {v : Value} {l : Literal}
    (made : ofNumber? v = some l) : WrittenNumber v l.chars := by
  cases v with
  | integer n => cases made; exact .ofLiteral (isNumericLiteral_integerChars _) rfl
  | option code => cases made; exact .ofLiteral (isNumericLiteral_integerChars _) rfl
  | double d =>
      simp only [ofNumber?] at made
      split at made
      · rename_i finite
        cases made
        exact .ofLiteral (Double.isNumericLiteral_plain finite) rfl
      · cases made
  | money amount => cases made; exact .ofLiteral amount.isNumericLiteral_text rfl
  | decimal amount => cases made; exact .ofLiteral amount.isNumericLiteral_text rfl
  | _ => cases made

/-- In statements, what is compared with a number is written as a number, unless it is null. -/
theorem Literal.writtenNumber_of_ofValue {a : AttributeMetadata} {v : Value} {l : Literal}
    (number : a.type.literalKind = .number) (made : ofValue a v = .ok l) (given : l ≠ .null) :
    WrittenNumber v l.chars := by
  unfold ofValue at made
  rw [number] at made
  split at made
  · rename_i literal ofKind
    cases made
    cases v with
    | null =>
        cases ofKind
        exact absurd rfl given
    | string s =>
        obtain ⟨t, read, rfl⟩ := Option.map_eq_some_iff.mp ofKind
        exact .ofText read
    | _ => exact writtenNumber_of_ofNumber? ofKind
  · cases made

end Sql

namespace OData

theorem Literal.writtenNumber_of_ofOwnKind? {v : Value} {l : Literal}
    (number : v.isNumberOrJson = true) (made : ofOwnKind? v = some l) :
    ∃ text, l = .raw text ∧ WrittenNumber v text.toList := by
  have integer (n : Int) : IsNumericLiteral (Value.integerText n).toList := by
    rw [Value.toList_integerText]
    exact isNumericLiteral_integerChars n
  cases v with
  | integer n => cases made; exact ⟨_, rfl, .ofLiteral (integer _) rfl⟩
  | option code => cases made; exact ⟨_, rfl, .ofLiteral (integer _) rfl⟩
  | double d =>
      simp only [ofOwnKind?] at made
      split at made
      · rename_i finite
        cases made
        have written := Double.isNumericLiteral_plain finite
        rw [← String.toList_ofList (l := d.plain)] at written
        exact ⟨_, rfl, .ofLiteral written rfl⟩
      · cases made
  | money amount => cases made; exact ⟨_, rfl, .ofLiteral amount.isNumericLiteral_text rfl⟩
  | decimal amount => cases made; exact ⟨_, rfl, .ofLiteral amount.isNumericLiteral_text rfl⟩
  | json raw => cases made
  | _ => cases number

/-- In filters, what is compared with a number is written as a number, unless it is null. -/
theorem Literal.writtenNumber_of_ofComparison {a : AttributeMetadata} {v : Value} {l : Literal}
    (number : a.type.literalKind = .number) (made : ofComparison a v = .ok l)
    (given : l ≠ .null) : ∃ text, l = .raw text ∧ WrittenNumber v text.toList := by
  have fits := ok_of_orMismatch made
  unfold ofTyped? at fits
  rw [number] at fits
  cases v with
  | null =>
      cases fits
      exact absurd rfl given
  | string s =>
      obtain ⟨t, read, rfl⟩ := Option.map_eq_some_iff.mp fits
      exact ⟨t, rfl, .ofText read⟩
  | boolean | uuid | instant => cases fits
  | integer | option | double | money | decimal | json =>
      exact writtenNumber_of_ofOwnKind? rfl fits

end OData

/-- What is written for a value that is compared with an attribute of a numeric type is a numeric
literal in both dialects, and never quoted, if the value has a type of its own. A text is written as
it is, without the blanks around it, and is a numeric literal if it has no underscore and no plus
sign behind a minus sign; otherwise it is none. -/
theorem writtenNumber_of_compiled (a : AttributeMetadata)
    (number : a.type.literalKind = .number) (v : Value) :
    (∀ l, Sql.Literal.ofValue a v = .ok l → l ≠ .null → WrittenNumber v l.chars) ∧
    ∀ l, OData.Literal.ofComparison a v = .ok l → l ≠ .null →
      ∃ text, l = .raw text ∧ WrittenNumber v text.toList :=
  ⟨fun _ made given => Sql.Literal.writtenNumber_of_ofValue number made given,
    fun _ made given => OData.Literal.writtenNumber_of_ofComparison number made given⟩

/-- An amount of money. -/
def AttributeMetadata.price : AttributeMetadata :=
  ⟨"price", "price", .money⟩

/-- A text with blanks around it, no digit before the point and a signed exponent. -/
theorem writtenNumber_of_compiled_price :
    let v : Value := .string " -.50E+3\n"
    AttributeMetadata.price.type.literalKind = .number ∧
      Sql.Literal.ofValue .price v = .ok (.number "-.50E+3") ∧
      OData.Literal.ofComparison .price v = .ok (.raw "-.50E+3") ∧
      IsNumericLiteral "-.50E+3".toList := by
  intro v
  have number : AttributeMetadata.price.type.literalKind = .number := rfl
  have compiled : Sql.Literal.ofValue .price v = .ok (.number "-.50E+3") := by decide +kernel
  have compared : OData.Literal.ofComparison .price v = .ok (.raw "-.50E+3") := by decide +kernel
  have written := (writtenNumber_of_compiled .price number v).1 _ compiled nofun
  exact ⟨number, compiled, compared, written.isNumericLiteral_iff.mpr (by decide)⟩

/-- Not everything that is written for a number is a numeric literal. -/
theorem accepted_number_is_no_literal :
    ¬ (∀ a v l, a.type.literalKind = .number → Sql.Literal.ofValue a v = .ok l → l ≠ .null →
        IsNumericLiteral l.chars) ∧
    ¬ (∀ a v text, a.type.literalKind = .number →
        OData.Literal.ofComparison a v = .ok (.raw text) → IsNumericLiteral text.toList) := by
  constructor
  · intro law
    have isLiteral := law .price (.string "1_000") (.number "1_000") rfl (by decide +kernel) nofun
    exact isLiteral.isTidy.noUnderscore (by decide)
  · intro law
    have isLiteral := law .price (.string "1e-+5") "1e-+5" rfl (by decide +kernel)
    exact absurd isLiteral.isTidy (by decide)

end EntityGateway
