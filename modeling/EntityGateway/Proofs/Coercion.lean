import EntityGateway.Metadata.Coercion
import EntityGateway.Proofs.Number.ReadBack
import EntityGateway.Proofs.Time.ReadBack
import EntityGateway.Proofs.Uuid

/-!
# Coerced values are read back

Options, identifiers, instants and amounts of money are recognised in what a store answers, in any
of the forms that they may be written in. Callers see each in one form, its JSON form, and that one
is recognised again as the same value (`coerce_toJson_of_coerced`). JSON has no type for most of
them, so what this needs is that their texts are read back.
-/

namespace EntityGateway

/-- The values are the same, if the sign of a zero is left aside: amounts of money are the same
number with as many fractional digits, and other values are equal. -/
inductive Value.SameAs : Value → Value → Prop
  | refl (v : Value) : SameAs v v
  | money {amount other : Decimal} (number : amount.number = other.number)
      (scale : amount.scale = other.scale) : SameAs (.money amount) (.money other)

/-- The values that an attribute of a recognised type may have. -/
inductive Value.IsOf : AttributeType → Value → Prop
  | null (type : AttributeType) : IsOf type .null
  | option (code : Int32) : IsOf .picklist (.option code)
  | uuid (id : Uuid) : IsOf .uniqueidentifier (.uuid id)
  | instant (i : Instant) : IsOf .dateTime (.instant i)
  | money (amount : Decimal) : IsOf .money (.money amount)

namespace AttributeMetadata

variable {a : AttributeMetadata} {raw : Json} {v : Value}

theorem coerce_eq_ok_iff : a.coerce raw = .ok v ↔ a.coerced? raw = some v := by
  rw [coerce]
  cases a.coerced? raw <;> simp

/-- The types whose values are recognised. -/
def recognisedTypes : List AttributeType :=
  [.picklist, .uniqueidentifier, .money, .dateTime]

/-- What is recognised has the type of the attribute, and it is null where the raw value is. -/
theorem isOf_of_coerced? (typed : a.type ∈ recognisedTypes)
    (coerced : a.coerced? raw = some v) : v.IsOf a.type ∧ (v = .null ↔ raw = .null) := by
  cases raw with
  | null =>
      cases coerced
      exact ⟨.null a.type, iff_of_true rfl rfl⟩
  | _ =>
      simp only [recognisedTypes, List.mem_cons, List.not_mem_nil, or_false] at typed
      rcases typed with type | type | type | type
      all_goals
        simp only [coerced?, type, Option.map_eq_some_iff] at coerced
        obtain ⟨value, -, rfl⟩ := coerced
        rw [type]
        exact ⟨by constructor, iff_of_false nofun nofun⟩

theorem optionCode?_toInt (code : Int32) : optionCode? (.integer code.toInt) = some code := by
  rw [optionCode?, if_pos ⟨code.le_toInt, code.toInt_lt⟩, Int32.ofInt_toInt]

/-- A value of a recognised type is recognised in its JSON form. -/
theorem coerced?_toJson (isOf : v.IsOf a.type)
    (fourDigits : ∀ i, v = .instant i → i.HasFourDigitYear) :
    ∃ w, a.coerced? v.toJson = some w ∧ w.SameAs v := by
  generalize type : a.type = t at isOf
  cases isOf with
  | null => exact ⟨_, rfl, .refl _⟩
  | option code =>
      refine ⟨_, ?_, .refl _⟩
      simp only [coerced?, Value.toJson, type, optionCode?_toInt, Option.map_some]
  | uuid id =>
      refine ⟨_, ?_, .refl _⟩
      simp only [coerced?, Value.toJson, type, ofText?, Uuid.read?_text, Option.map_some]
  | instant i =>
      refine ⟨_, ?_, .refl _⟩
      have read := Instant.readLenient?_text (fourDigits i rfl)
      simp only [coerced?, Value.toJson, type, ofText?, read, Option.map_some]
  | money amount =>
      refine ⟨_, ?_, .money amount.number_unsignedZero amount.scale_unsignedZero⟩
      simp only [coerced?, Value.toJson, type, amount?, Decimal.read?_text, Option.map_some]

/-- A value that was recognised in any form has the type of its attribute, and is recognised again
as the same value in the form that callers see. -/
theorem coerce_toJson_of_coerced (typed : a.type ∈ recognisedTypes)
    (coerced : a.coerce raw = .ok v) (fourDigits : ∀ i, v = .instant i → i.HasFourDigitYear) :
    v.IsOf a.type ∧ (v = .null ↔ raw = .null) ∧
      ∃ w, a.coerce v.toJson = .ok w ∧ w.SameAs v := by
  obtain ⟨isOf, null⟩ := isOf_of_coerced? typed (coerce_eq_ok_iff.mp coerced)
  obtain ⟨w, again, same⟩ := coerced?_toJson isOf fourDigits
  exact ⟨isOf, null, w, coerce_eq_ok_iff.mpr again, same⟩

/-- An attribute of payments. -/
def ofPayment (type : AttributeType) : AttributeMetadata :=
  ⟨"payment", "Payment", type⟩

theorem coerce_toJson_of_coerced_payment :
    let account : Json := .string "\x7b6BA7B810-9DAD-11D1-80B4-00C04FD430C8\x7d"
    let amount : Json := .string "-0.1e-28"
    let time : Json := .string "2016-12-31 23:59:60.5"
    (∃ least, (ofPayment .picklist).coerce (.integer (-2147483648)) = .ok (.option least) ∧
      ∃ w, (ofPayment .picklist).coerce (Value.option least).toJson = .ok w ∧
        w.SameAs (.option least)) ∧
    (∃ id, (ofPayment .uniqueidentifier).coerce account = .ok (.uuid id) ∧
      ∃ w, (ofPayment .uniqueidentifier).coerce (Value.uuid id).toJson = .ok w ∧
        w.SameAs (.uuid id)) ∧
    (∃ zero, (ofPayment .money).coerce amount = .ok (.money zero) ∧
      ∃ w, (ofPayment .money).coerce (Value.money zero).toJson = .ok w ∧
        w.SameAs (.money zero)) ∧
    ∃ leap, (ofPayment .dateTime).coerce time = .ok (.instant leap) ∧ leap.HasFourDigitYear ∧
      ∃ w, (ofPayment .dateTime).coerce (Value.instant leap).toJson = .ok w ∧
        w.SameAs (.instant leap) := by
  intro account amount time
  obtain ⟨least, leastRead⟩ :
      ∃ code, (ofPayment .picklist).coerce (.integer (-2147483648)) = .ok (.option code) := ⟨_, rfl⟩
  obtain ⟨id, idRead⟩ : ∃ id, (ofPayment .uniqueidentifier).coerce account = .ok (.uuid id) :=
    ⟨_, rfl⟩
  obtain ⟨zero, zeroRead⟩ : ∃ d, (ofPayment .money).coerce amount = .ok (.money d) := ⟨_, rfl⟩
  obtain ⟨leap, leapRead, fourDigits⟩ :
      ∃ i, (ofPayment .dateTime).coerce time = .ok (.instant i) ∧ i.HasFourDigitYear :=
    ⟨_, rfl, by decide⟩
  obtain ⟨-, -, leastAgain⟩ :=
    coerce_toJson_of_coerced (by decide) leastRead (fun _ instant => by cases instant)
  obtain ⟨-, -, idAgain⟩ :=
    coerce_toJson_of_coerced (by decide) idRead (fun _ instant => by cases instant)
  obtain ⟨-, -, zeroAgain⟩ :=
    coerce_toJson_of_coerced (by decide) zeroRead (fun _ instant => by cases instant)
  obtain ⟨-, -, leapAgain⟩ :=
    coerce_toJson_of_coerced (by decide) leapRead (by rintro i ⟨⟩; exact fourDigits)
  exact ⟨⟨least, leastRead, leastAgain⟩, ⟨id, idRead, idAgain⟩, ⟨zero, zeroRead, zeroAgain⟩, leap,
    leapRead, fourDigits, leapAgain⟩

end AttributeMetadata

end EntityGateway
