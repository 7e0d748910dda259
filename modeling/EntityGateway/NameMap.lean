/-!
# Maps from names

A map from names to values, as the list of its entries in the order of their names. The order is
that of code points, which is also the order in which a map's entries are written out. Entries with
the same name never stand side by side: inserting replaces.
-/

namespace EntityGateway

/-- Puts an entry into a list of entries that is sorted by name. -/
def insertEntry {α : Type u} (name : String) (value : α) :
    List (String × α) → List (String × α)
  | [] => [(name, value)]
  | entry :: rest =>
    if name < entry.1 then (name, value) :: entry :: rest
    else if name = entry.1 then (name, value) :: rest
    else entry :: insertEntry name value rest

/-- The value under a name in a list of entries. -/
def valueUnder? {α : Type u} (name : String) : List (String × α) → Option α
  | [] => none
  | entry :: rest => if entry.1 = name then some entry.2 else valueUnder? name rest

/-- The entries, the last one of each name, in the order of their names. -/
def sortEntries {α : Type u} (entries : List (String × α)) : List (String × α) :=
  entries.foldl (fun sorted entry => insertEntry entry.1 entry.2 sorted) []

/-- Each name comes before the next. -/
abbrev SortedByName {α : Type u} (entries : List (String × α)) : Prop :=
  entries.Pairwise (fun a b => a.1 < b.1)

theorem mem_insertEntry {α : Type u} {name : String} {value : α} {entries : List (String × α)}
    {entry : String × α} (h : entry ∈ insertEntry name value entries) :
    entry = (name, value) ∨ entry ∈ entries := by
  induction entries with
  | nil => simpa [insertEntry] using h
  | cons first rest ih =>
    simp only [insertEntry] at h
    split at h
    · simpa using h
    · split at h
      · rcases List.mem_cons.1 h with h | h
        · exact .inl h
        · exact .inr (List.mem_cons_of_mem _ h)
      · rcases List.mem_cons.1 h with h | h
        · exact .inr (h ▸ List.mem_cons_self)
        · exact (ih h).imp id (List.mem_cons_of_mem _)

/-- Inserting keeps the order of names. -/
theorem SortedByName.insertEntry {α : Type u} {entries : List (String × α)}
    (sorted : SortedByName entries) (name : String) (value : α) :
    SortedByName (EntityGateway.insertEntry name value entries) := by
  induction entries with
  | nil => simp [EntityGateway.insertEntry]
  | cons first rest ih =>
    have firstLeast := (List.pairwise_cons.1 sorted).1
    have restSorted := (List.pairwise_cons.1 sorted).2
    simp only [EntityGateway.insertEntry]
    split
    · rename_i less
      refine List.pairwise_cons.2 ⟨fun entry member => ?_, sorted⟩
      rcases List.mem_cons.1 member with rfl | member
      · exact less
      · exact String.lt_trans less (firstLeast entry member)
    · split
      · rename_i same
        refine List.pairwise_cons.2 ⟨fun entry member => ?_, restSorted⟩
        exact same ▸ firstLeast entry member
      · rename_i notLess notSame
        refine List.pairwise_cons.2 ⟨fun entry member => ?_, ih restSorted⟩
        rcases mem_insertEntry member with rfl | member
        · exact Std.lt_of_le_of_ne (String.not_lt.1 notLess) (Ne.symm notSame)
        · exact firstLeast entry member

/-- Entries are in order once they have been sorted. -/
theorem sortedByName_sortEntries {α : Type u} (entries : List (String × α)) :
    SortedByName (sortEntries entries) := by
  suffices ∀ sorted : List (String × α), SortedByName sorted →
      SortedByName (entries.foldl (fun s entry => insertEntry entry.1 entry.2 s) sorted) from
    this [] List.Pairwise.nil
  induction entries with
  | nil => exact fun _ h => h
  | cons entry rest ih => exact fun sorted h => ih _ (h.insertEntry entry.1 entry.2)

/-- A map from names to values. -/
structure NameMap (α : Type u) where
  entries : List (String × α)
  sorted : SortedByName entries

namespace NameMap

variable {α : Type u}

/-- Maps with the same entries are the same. -/
@[ext] theorem ext {m n : NameMap α} (h : m.entries = n.entries) : m = n := by
  cases m; cases n; cases h; rfl

/-- The map without entries. -/
def empty : NameMap α := ⟨[], List.Pairwise.nil⟩

instance : Inhabited (NameMap α) := ⟨empty⟩

/-- Maps a name to a value, whatever it was mapped to before. -/
def insert (m : NameMap α) (name : String) (value : α) : NameMap α :=
  ⟨insertEntry name value m.entries, m.sorted.insertEntry name value⟩

/-- The value of a name. -/
def find? (m : NameMap α) (name : String) : Option α :=
  valueUnder? name m.entries

/-- The map of some entries, of which the last one for a name counts. -/
def ofList (entries : List (String × α)) : NameMap α :=
  ⟨sortEntries entries, sortedByName_sortEntries entries⟩

/-- The names, in order. -/
def names (m : NameMap α) : List String :=
  m.entries.map (·.1)

end NameMap

end EntityGateway
