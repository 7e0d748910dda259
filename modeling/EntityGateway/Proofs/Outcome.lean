import Mathlib.Data.List.Forall2

/-!
# Outcomes

Computations that fail with a cause or give a result, taken apart: a computation that went well is a
chain of steps that went well, and a list computed item by item stands item by item beside what it
was computed from, or its first item that fails is named (`FirstFailure`). `SameOutcome` compares
two computations that may fail.
-/

namespace EntityGateway

variable {ε α β γ δ : Type}

/-! ## Computations that went well -/

theorem ok_of_map_eq_ok {f : α → β} {x : Except ε α} {b : β} (mapped : x.map f = .ok b) :
    ∃ a, x = .ok a ∧ f a = b := by
  cases x with
  | error cause => cases mapped
  | ok a => exact ⟨a, rfl, Except.ok.inj mapped⟩

theorem ok_of_mapError_eq_ok {ε' : Type} {f : ε → ε'} {x : Except ε α} {a : α}
    (mapped : x.mapError f = .ok a) : x = .ok a := by
  cases x with
  | error cause => cases mapped
  | ok other =>
      cases mapped
      rfl

theorem ok_of_toOption_eq_some {x : Except ε α} {a : α} (some : x.toOption = some a) :
    x = .ok a := by
  cases x with
  | error cause => cases some
  | ok other =>
      cases some
      rfl

/-- A chain of steps that went well is a step that went well and the others on its result. -/
theorem ok_of_bind_eq_ok {f : α → Except ε β} {x : Except ε α} {b : β}
    (bound : x >>= f = .ok b) : ∃ a, x = .ok a ∧ f a = .ok b := by
  cases x with
  | error cause => cases bound
  | ok a => exact ⟨a, rfl, bound⟩

/-- What was computed item by item stands item by item beside its source. -/
theorem forall₂_of_mapM_eq_ok {f : α → Except ε β} {as : List α} {bs : List β}
    (computed : as.mapM f = .ok bs) : List.Forall₂ (fun a b => f a = .ok b) as bs := by
  induction as generalizing bs with
  | nil =>
      cases computed
      exact .nil
  | cons a as ih =>
      rw [List.mapM_cons] at computed
      obtain ⟨b, first, computed⟩ := ok_of_bind_eq_ok computed
      obtain ⟨rest, others, computed⟩ := ok_of_bind_eq_ok computed
      cases computed
      exact .cons first (ih others)

/-- What holds beside every item of one list holds of every item of the other. -/
theorem forall_mem_of_forall₂ {p : β → Prop} {as : List α} {bs : List β}
    (beside : List.Forall₂ (fun _ b => p b) as bs) : ∀ b ∈ bs, p b := by
  induction beside with
  | nil => simp
  | cons first _ others => exact List.forall_mem_cons.mpr ⟨first, others⟩

/-- Something stands beside every item of the first list. -/
theorem exists_beside_left {R : α → β → Prop} {as : List α} {bs : List β} {a : α}
    (beside : List.Forall₂ R as bs) (member : a ∈ as) : ∃ b ∈ bs, R a b := by
  induction beside with
  | nil => cases member
  | @cons a' b' _ _ first _ ih =>
      rcases List.mem_cons.mp member with rfl | member
      · exact ⟨b', List.mem_cons_self, first⟩
      · obtain ⟨b, found, related⟩ := ih member
        exact ⟨b, List.mem_cons_of_mem _ found, related⟩

theorem exists_beside_right {R : α → β → Prop} {as : List α} {bs : List β} {b : β}
    (beside : List.Forall₂ R as bs) (member : b ∈ bs) : ∃ a ∈ as, R a b :=
  exists_beside_left (R := flip R) beside.flip member

/-- If every item of a list has something beside it, there is a list beside the whole list. -/
theorem exists_forall₂ {R : α → β → Prop} {as : List α} (beside : ∀ a ∈ as, ∃ b, R a b) :
    ∃ bs, List.Forall₂ R as bs := by
  induction as with
  | nil => exact ⟨[], .nil⟩
  | cons a as ih =>
      obtain ⟨⟨b, first⟩, others⟩ := List.forall_mem_cons.mp beside
      obtain ⟨bs, rest⟩ := ih others
      exact ⟨b :: bs, .cons first rest⟩

/-! ## Computations that failed -/

theorem error_of_map_eq_error {f : α → β} {x : Except ε α} {cause : ε}
    (mapped : x.map f = .error cause) : x = .error cause := by
  cases x with
  | error other =>
      cases mapped
      rfl
  | ok a => cases mapped

/-- A chain of steps failed because its first step did, or because the others did on its result. -/
theorem error_or_error_of_bind {f : α → Except ε β} {x : Except ε α} {cause : ε}
    (bound : x >>= f = .error cause) :
    x = .error cause ∨ ∃ a, x = .ok a ∧ f a = .error cause := by
  cases x with
  | error other =>
      cases bound
      exact .inl rfl
  | ok a => exact .inr ⟨a, rfl, bound⟩

/-- The item at an index is the first one of a list that something fails for. -/
structure FirstFailure (f : α → Except ε β) (as : List α) (index : Nat) (cause : ε) : Prop where
  fails : ∃ a, as[index]? = some a ∧ f a = .error cause
  earlier : ∀ i < index, ∃ a b, as[i]? = some a ∧ f a = .ok b

/-- An item that goes well comes before the first that fails. -/
theorem FirstFailure.later {f : α → Except ε β} {a : α} {as : List α} {b : β} {index : Nat}
    {cause : ε} (first : f a = .ok b) (failure : FirstFailure f as index cause) :
    FirstFailure f (a :: as) (index + 1) cause where
  fails := failure.fails
  earlier := by
    rintro (_ | i) less
    · exact ⟨a, b, rfl, first⟩
    · exact failure.earlier i (Nat.lt_of_succ_lt_succ less)

/-- A list that is computed item by item fails as its first item that fails. -/
theorem firstFailure_of_mapM_eq_error {f : α → Except ε β} {as : List α} {cause : ε}
    (failed : as.mapM f = .error cause) : ∃ index, FirstFailure f as index cause := by
  induction as with
  | nil => cases failed
  | cons a as ih =>
      rw [List.mapM_cons] at failed
      rcases error_or_error_of_bind failed with first | ⟨b, first, failed⟩
      · exact ⟨0, ⟨a, rfl, first⟩, fun i less => absurd less (Nat.not_lt_zero i)⟩
      · rcases error_or_error_of_bind failed with others | ⟨bs, -, finished⟩
        · obtain ⟨index, failure⟩ := ih others
          exact ⟨index + 1, failure.later first⟩
        · cases finished

/-! ## Computations with the same outcome -/

/-- Two computations fail for the same cause, or give related results. -/
inductive SameOutcome (R : α → β → Prop) : Except ε α → Except ε β → Prop
  | error (cause : ε) : SameOutcome R (.error cause) (.error cause)
  | ok {a : α} {b : β} : R a b → SameOutcome R (.ok a) (.ok b)

namespace SameOutcome

variable {R : α → β → Prop} {S : γ → δ → Prop} {x : Except ε α} {y : Except ε β}

theorem error_or_ok (same : SameOutcome R x y) :
    (∃ cause, x = .error cause ∧ y = .error cause) ∨ ∃ a b, x = .ok a ∧ y = .ok b ∧ R a b := by
  cases same with
  | error cause => exact .inl ⟨cause, rfl, rfl⟩
  | ok results => exact .inr ⟨_, _, rfl, rfl, results⟩

theorem map {f : α → γ} {g : β → δ} (same : SameOutcome R x y)
    (related : ∀ {a b}, R a b → S (f a) (g b)) : SameOutcome S (x.map f) (y.map g) := by
  cases same with
  | error cause => exact .error cause
  | ok results => exact .ok (related results)

/-- Steps that go on alike from related results have the same outcome. -/
theorem bind {f : α → Except ε γ} {g : β → Except ε δ} (same : SameOutcome R x y)
    (related : ∀ {a b}, R a b → SameOutcome S (f a) (g b)) :
    SameOutcome S (x >>= f) (y >>= g) := by
  cases same with
  | error cause => exact .error cause
  | ok results => exact related results

/-- Two lists computed item by item from one list have the same outcome if each item has. The first
item that fails decides. -/
theorem mapM {ι : Type} {f : ι → Except ε α} {g : ι → Except ε β} {items : List ι}
    (same : ∀ i ∈ items, SameOutcome R (f i) (g i)) :
    SameOutcome (List.Forall₂ R) (items.mapM f) (items.mapM g) := by
  induction items with
  | nil => exact .ok .nil
  | cons i items ih =>
      rw [List.mapM_cons, List.mapM_cons]
      refine (same i List.mem_cons_self).bind fun first => ?_
      refine (ih fun i member => same i (List.mem_cons_of_mem _ member)).bind fun others => ?_
      exact .ok (.cons first others)

end SameOutcome

end EntityGateway
