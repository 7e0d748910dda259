import EntityGateway.NameMap
import Mathlib.Data.List.Induction

/-!
# Laws of maps from names

Inserting changes what is found under one name and nothing else, and of entries inserted one after
the other the last one under a name is found. Entries that are in order already stay as they are
when they are sorted, so a map is known by its list of entries.
-/

namespace EntityGateway

variable {α : Type u} {name other : String} {value : α} {entries : List (String × α)}

theorem valueUnder?_insertEntry (name other : String) (value : α) (entries : List (String × α)) :
    valueUnder? other (insertEntry name value entries) =
      if name = other then some value else valueUnder? other entries := by
  induction entries with
  | nil => rfl
  | cons first rest ih =>
      unfold insertEntry
      split
      · rfl
      · split
        · rename_i same
          by_cases found : name = other
          · simp only [valueUnder?, if_pos found]
          · simp only [valueUnder?, if_neg found, ← same]
        · rename_i different
          rw [valueUnder?, valueUnder?, ih]
          split
          · rename_i here
            rw [if_neg (here ▸ different)]
          · rfl

theorem valueUnder?_eq_none_iff :
    valueUnder? name entries = none ↔ name ∉ entries.map (·.1) := by
  induction entries with
  | nil => simp [valueUnder?]
  | cons entry rest ih =>
      rw [valueUnder?, List.map_cons, List.mem_cons, not_or, ← ih]
      split
      · rename_i here
        simp [here]
      · rename_i different
        simp [Ne.symm different]

theorem mem_of_valueUnder? (found : valueUnder? name entries = some value) :
    (name, value) ∈ entries := by
  induction entries with
  | nil => cases found
  | cons entry rest ih =>
      rw [valueUnder?] at found
      split at found
      · rename_i here
        cases found
        exact here ▸ List.mem_cons_self
      · exact List.mem_cons_of_mem _ (ih found)

/-! ## Sorting -/

/-- An entry with a name after all others goes to the end. -/
theorem insertEntry_of_last (last : ∀ entry ∈ entries, entry.1 < name) (value : α) :
    insertEntry name value entries = entries ++ [(name, value)] := by
  induction entries with
  | nil => rfl
  | cons first rest ih =>
      have later : first.1 < name := last first List.mem_cons_self
      rw [insertEntry, if_neg (String.lt_asymm later), if_neg (Ne.symm (String.ne_of_lt later)),
        ih fun entry member => last entry (List.mem_cons_of_mem _ member), List.cons_append]

/-- Sorting changes nothing about entries that are in order. -/
theorem sortEntries_of_sorted (sorted : SortedByName entries) : sortEntries entries = entries := by
  -- What was sorted so far stands before the rest, in the order of all.
  suffices ∀ front : List (String × α), SortedByName (front ++ entries) →
      entries.foldl (fun done entry => insertEntry entry.1 entry.2 done) front =
        front ++ entries from
    this [] sorted
  clear sorted
  induction entries with
  | nil => intro front _; exact (List.append_nil front).symm
  | cons first rest ih =>
      intro front ordered
      have last : ∀ entry ∈ front, entry.1 < first.1 := fun entry member =>
        (List.pairwise_append.mp ordered).2.2 entry member first List.mem_cons_self
      rw [List.foldl_cons, insertEntry_of_last last]
      have step := ih (front ++ [first])
      rw [List.append_assoc] at step
      exact step ordered

/-- Sorting adds no entries. -/
theorem mem_of_mem_sortEntries {entry : String × α} (member : entry ∈ sortEntries entries) :
    entry ∈ entries := by
  suffices ∀ done : List (String × α),
      entry ∈ entries.foldl (fun s e => insertEntry e.1 e.2 s) done →
        entry ∈ done ∨ entry ∈ entries from
    (this [] member).resolve_left List.not_mem_nil
  clear member
  induction entries with
  | nil => exact fun done member => .inl member
  | cons first rest ih =>
      intro done member
      rcases ih _ member with member | member
      · rcases mem_insertEntry member with rfl | member
        · exact .inr List.mem_cons_self
        · exact .inl member
      · exact .inr (List.mem_cons_of_mem _ member)

/-! ## Maps -/

namespace NameMap

/-- The map with other values under the same names. -/
def mapValues {β : Type v} (f : α → β) (m : NameMap α) : NameMap β where
  entries := m.entries.map fun entry => (entry.1, f entry.2)
  sorted := List.pairwise_map.mpr m.sorted

theorem mapValues_id (m : NameMap α) : m.mapValues id = m :=
  NameMap.ext (List.map_id m.entries)

/-- Every entry of a map is found under its name. -/
theorem find?_of_mem {m : NameMap α} {entry : String × α} (member : entry ∈ m.entries) :
    m.find? entry.1 = some entry.2 := by
  have sorted := m.sorted
  unfold find?
  generalize m.entries = entries at member sorted
  induction entries with
  | nil => cases member
  | cons first rest ih =>
      obtain ⟨firstLeast, restSorted⟩ := List.pairwise_cons.mp sorted
      rw [valueUnder?]
      rcases List.mem_cons.mp member with rfl | inRest
      · rw [if_pos rfl]
      · rw [if_neg (String.ne_of_lt (firstLeast entry inRest))]
        exact ih inRest restSorted

/-- A map is known by what is found in it. -/
theorem ext_find? {m n : NameMap α} (same : ∀ name, m.find? name = n.find? name) : m = n := by
  have within {m n : NameMap α} (same : ∀ name, m.find? name = n.find? name) :
      m.entries ⊆ n.entries := fun entry member =>
    mem_of_valueUnder? ((same entry.1).symm.trans (find?_of_mem member))
  have distinct (m : NameMap α) : m.entries.Nodup :=
    m.sorted.imp fun less equal => String.ne_of_lt less (congrArg Prod.fst equal)
  have perm : m.entries.Perm n.entries :=
    (List.perm_ext_iff_of_nodup (distinct m) (distinct n)).mpr fun entry =>
      ⟨fun member => within same member, fun member => within (fun name => (same name).symm) member⟩
  exact NameMap.ext (perm.eq_of_pairwise
    (fun a b _ _ less greater => absurd greater (String.lt_asymm less)) m.sorted n.sorted)

theorem find?_insert (m : NameMap α) (name other : String) (value : α) :
    (m.insert name value).find? other = if name = other then some value else m.find? other :=
  valueUnder?_insertEntry name other value m.entries

/-- Of entries inserted one after the other, the last one under a name is found. -/
theorem find?_foldl_insert (m : NameMap α) (inserted : List (String × α)) (name : String) :
    (inserted.foldl (fun map entry => map.insert entry.1 entry.2) m).find? name =
      (valueUnder? name inserted.reverse).or (m.find? name) := by
  induction inserted using List.reverseRecOn with
  | nil => rfl
  | append_singleton inserted entry ih =>
      rw [List.foldl_append, List.foldl_cons, List.foldl_nil, find?_insert, ih,
        List.reverse_append, List.reverse_singleton, List.singleton_append, valueUnder?]
      split <;> rfl

end NameMap

end EntityGateway
