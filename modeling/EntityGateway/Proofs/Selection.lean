import EntityGateway.Proofs.Agreement
import EntityGateway.Proofs.OData.OptionPairs
import EntityGateway.Proofs.Record.Projection
import Mathlib.Data.List.Induction
import Mathlib.Data.List.Nodup

/-!
# The columns that are selected

A query asks for columns by logical names, possibly more than once, and several of them may be kept
under one external name. What is selected are the external names, each where it was asked for first:
`firstOccurrences`. The names are gathered one after the other (`EntityMetadata.gather`), and what
holds at every point is that the names gathered so far are the first occurrences of the names passed
so far. The document store is asked for the identifier as well, as if it were the last column.
-/

namespace EntityGateway

/-! ## First occurrences -/

/-- The items at whose position no equal item stands before, in their order. -/
def firstOccurrences (names : List String) : List String :=
  (names.zipIdx.filter fun (name, position) => name ∉ names.take position).map Prod.fst

/-- An item more at the end is kept if it is new, and changes nothing about the others. -/
theorem firstOccurrences_concat (names : List String) (name : String) :
    firstOccurrences (names ++ [name]) =
      if name ∈ names then firstOccurrences names else firstOccurrences names ++ [name] := by
  -- at the positions of the earlier items the new one is not among those before
  have earlier : ∀ item ∈ names.zipIdx,
      decide (item.1 ∉ (names ++ [name]).take item.2) = decide (item.1 ∉ names.take item.2) := by
    intro item among
    have before : item.2 ≤ names.length := (List.snd_lt_of_mem_zipIdx among).le
    rw [List.take_append_of_le_length before]
  have last : (names ++ [name]).take names.length = names := List.take_left
  unfold firstOccurrences
  rw [List.zipIdx_append, List.filter_append, List.filter_congr earlier]
  by_cases member : name ∈ names <;> simp [member, last]

/-- No name is lost with its repetitions. -/
theorem mem_firstOccurrences {name : String} {names : List String} :
    name ∈ firstOccurrences names ↔ name ∈ names := by
  induction names using List.reverseRecOn with
  | nil => rfl
  | append_singleton names last ih =>
      rw [firstOccurrences_concat]
      split_ifs with member
      · rw [ih, List.mem_append, List.mem_singleton, or_iff_left_of_imp (fun same => same ▸ member)]
      · rw [List.mem_append, List.mem_append, ih]

/-- A name at the end is kept if it is a new one. -/
theorem firstOccurrences_append_singleton (names : List String) (name : String) :
    firstOccurrences (names ++ [name]) = withName name (firstOccurrences names) := by
  rw [firstOccurrences_concat, withName]
  simp only [mem_firstOccurrences]

/-- Each name is kept once. -/
theorem nodup_firstOccurrences (names : List String) : (firstOccurrences names).Nodup := by
  induction names using List.reverseRecOn with
  | nil => exact List.nodup_nil
  | append_singleton names last ih =>
      rw [firstOccurrences_concat]
      split_ifs with member
      · exact ih
      · have new : last ∉ firstOccurrences names := mt mem_firstOccurrences.mp member
        exact List.Nodup.append ih (List.nodup_singleton _) (by simpa using new)

/-- Names are kept in their order. -/
theorem firstOccurrences_sublist (names : List String) :
    (firstOccurrences names).Sublist names := by
  induction names using List.reverseRecOn with
  | nil => exact List.Sublist.refl _
  | append_singleton names last ih =>
      rw [firstOccurrences_concat]
      split_ifs
      · exact ih.trans (List.sublist_append_left _ _)
      · exact ih.append_right _

/-! ## Gathering names -/

namespace EntityMetadata

variable {m : EntityMetadata}

/-- One step over the columns: the external name is put behind those gathered so far, unless it is
among them. -/
def gather (m : EntityMetadata) (gathered : List String) (column : String) :
    Except CompileError (List String) :=
  (m.externalFor column).map fun name => withName name gathered

/-- A projection is what is gathered column by column. The first unknown column ends it. -/
theorem projection_eq_foldlM (columns : List String) :
    m.projection columns = columns.foldlM m.gather [] := by
  induction columns using List.reverseRecOn with
  | nil => rfl
  | append_singleton columns column ih =>
      -- the loop over the columns before the last has gathered their projection
      rw [List.foldlM_append, ← ih, projection, projection, List.mapM_append]
      cases columns.mapM m.externalFor with
      | error cause => rfl
      | ok names =>
          have last : [column].mapM m.externalFor = (m.externalFor column).map ([·]) := by
            rw [List.mapM_cons]
            cases m.externalFor column <;> rfl
          rw [last]
          change _ = [column].foldlM m.gather names.eraseDups
          rw [List.foldlM_cons, gather]
          cases m.externalFor column with
          | error cause => rfl
          | ok name => exact congrArg Except.ok (eraseDups_append_singleton names name)

/-- A step keeps what holds of the names gathered so far. -/
theorem gather_firstOccurrences {column name : String} (known : m.externalFor column = .ok name)
    (passed : List String) : m.gather (firstOccurrences passed) column =
      .ok (firstOccurrences (passed ++ [name])) := by
  rw [gather, known, firstOccurrences_append_singleton]
  rfl

/-- The names that were gathered are the first occurrences of those that were passed. -/
theorem foldlM_gather {columns externals : List String}
    (known : List.Forall₂ (fun column name => m.externalFor column = .ok name) columns externals)
    (passed : List String) : columns.foldlM m.gather (firstOccurrences passed) =
      .ok (firstOccurrences (passed ++ externals)) := by
  induction known generalizing passed with
  | nil => rw [List.append_nil]; rfl
  | @cons column name columns externals first _ ih =>
      rw [List.foldlM_cons, gather_firstOccurrences first]
      change columns.foldlM m.gather (firstOccurrences (passed ++ [name])) = _
      rw [ih, List.append_assoc, List.singleton_append]

/-- Columns that are known are projected to the first occurrences of their external names. -/
theorem projection_of_known {columns externals : List String}
    (known : List.Forall₂ (fun column name => m.externalFor column = .ok name) columns externals) :
    m.projection columns = .ok (firstOccurrences externals) := by
  rw [projection_eq_foldlM]
  exact foldlM_gather known []

/-- A name that some attribute has is the name of an external one. -/
theorem exists_toExternal {name : String} (described : ∃ a ∈ m.attributes, a.logicalName = name) :
    ∃ external, m.toExternal name = .ok external := by
  obtain ⟨a, member, named⟩ := described
  cases known : m.toExternal name with
  | ok external => exact ⟨external, rfl⟩
  | error fault => exact absurd named ((toExternal_eq_error_iff.mp known).1 a member)

theorem externalFor_of_toExternal {name external : String}
    (known : m.toExternal name = .ok external) : m.externalFor name = .ok external := by
  rw [externalFor, known]
  rfl

end EntityMetadata

/-! ## What is compiled -/

/-- The names are what is left of a list when every name stays only where it occurs first. -/
structure Distills (names all : List String) : Prop where
  kept : names = firstOccurrences all
  distinct : names.Nodup
  ordered : names.Sublist all
  complete : ∀ name, name ∈ names ↔ name ∈ all

theorem distills_firstOccurrences (all : List String) : Distills (firstOccurrences all) all where
  kept := rfl
  distinct := nodup_firstOccurrences all
  ordered := firstOccurrences_sublist all
  complete _ := mem_firstOccurrences

/-- A column set is compiled to the columns of a statement and to the properties that options
select, by itself and in every query that is compiled. -/
structure ColumnSet.CompilesTo (columnSet : ColumnSet) (m : EntityMetadata)
    (columns : Option (List Sql.Column)) (select : List String) : Prop where
  columnsOf : Sql.columnsOf m columnSet = .ok columns
  selectOf : OData.selectOf m columnSet = .ok select
  statement : ∀ q s, q.columnSet = columnSet → Sql.Select.ofQuery m q = .ok s →
    s.columns = columns
  options : ∀ q o, q.columnSet = columnSet → OData.Options.ofQuery m q = .ok o →
    o.select = select

/-- The columns of a statement depend on nothing but the column set. -/
theorem Sql.columnsOf_of_ofQuery {m : EntityMetadata} {q : Query} {s : Sql.Select}
    (compiled : Sql.Select.ofQuery m q = .ok s) :
    Sql.columnsOf m q.columnSet = .ok s.columns := by
  obtain ⟨columns, chosen, compiled⟩ := ok_of_bind_eq_ok compiled
  obtain ⟨order, -, compiled⟩ := ok_of_bind_eq_ok compiled
  obtain ⟨condition, -, compiled⟩ := ok_of_bind_eq_ok compiled
  cases compiled
  exact chosen

/-- The selection of options depends on nothing but the column set. -/
theorem OData.selectOf_of_ofQuery {m : EntityMetadata} {q : Query} {o : OData.Options}
    (compiled : OData.Options.ofQuery m q = .ok o) :
    OData.selectOf m q.columnSet = .ok o.select := by
  obtain ⟨select, chosen, compiled⟩ := ok_of_bind_eq_ok compiled
  obtain ⟨order, -, compiled⟩ := ok_of_bind_eq_ok compiled
  obtain ⟨filter, -, compiled⟩ := ok_of_bind_eq_ok compiled
  cases compiled
  exact chosen

namespace ColumnSet

variable {m : EntityMetadata} {columnSet : ColumnSet} {columns : Option (List Sql.Column)}
  {select : List String}

theorem compilesTo (columnsCompiled : Sql.columnsOf m columnSet = .ok columns)
    (selectCompiled : OData.selectOf m columnSet = .ok select) :
    columnSet.CompilesTo m columns select where
  columnsOf := columnsCompiled
  selectOf := selectCompiled
  statement := by
    rintro q s rfl compiled
    exact Except.ok.inj ((Sql.columnsOf_of_ofQuery compiled).symm.trans columnsCompiled)
  options := by
    rintro q o rfl compiled
    exact Except.ok.inj ((OData.selectOf_of_ofQuery compiled).symm.trans selectCompiled)

theorem isRestricted_iff : columnSet.isRestricted = true ↔
    columnSet.allColumns = false ∧ columnSet.columns ≠ [] := by
  simp [isRestricted]

/-- The primary attribute is looked up after the columns. -/
theorem compilesTo_of_restricted {externals : List String} {identifier : String}
    (restricted : columnSet.isRestricted = true)
    (known : List.Forall₂ (fun name external => m.toExternal name = .ok external)
      columnSet.columns externals)
    (identified : m.toExternal m.primaryIdAttribute = .ok identifier) :
    columnSet.CompilesTo m
      (some ((firstOccurrences (externals ++ [identifier])).map (⟨Sql.defaultAlias, ·⟩)))
      (firstOccurrences externals) := by
  have columnsFor : List.Forall₂ (fun name external => m.externalFor name = .ok external)
      columnSet.columns externals :=
    known.imp fun _ _ => EntityMetadata.externalFor_of_toExternal
  have allFor : List.Forall₂ (fun name external => m.externalFor name = .ok external)
      (columnSet.columns ++ [m.primaryIdAttribute]) (externals ++ [identifier]) :=
    List.rel_append columnsFor
      (.cons (EntityMetadata.externalFor_of_toExternal identified) .nil)
  refine compilesTo ?_ ?_
  · rw [Sql.columnsOf, if_pos restricted, EntityMetadata.projection_of_known allFor]
    rfl
  · rw [OData.selectOf, if_pos restricted, EntityMetadata.projection_of_known columnsFor]

theorem compilesTo_of_unrestricted (unrestricted : columnSet.isRestricted = false) :
    columnSet.CompilesTo m none [] := by
  refine compilesTo ?_ ?_
  · rw [Sql.columnsOf, unrestricted]
    rfl
  · rw [OData.selectOf, unrestricted]
    rfl

/-- What some columns are selected as: the external names of these columns, and in a statement the
identifier behind them, with all but the first occurrence of each name removed. So the identifier is
selected exactly once, whether it was asked for or not. A column set without columns, or one that
asks for all of them, selects everything without naming it. -/
theorem selected_of_columnSet (m : EntityMetadata) (columnSet : ColumnSet) :
    (columnSet.allColumns = false → columnSet.columns ≠ [] →
      (∀ name ∈ columnSet.columns ++ [m.primaryIdAttribute],
        ∃ a ∈ m.attributes, a.logicalName = name) →
      ∃ externals identifier names select,
        List.Forall₂ (fun name external => m.toExternal name = .ok external)
          columnSet.columns externals ∧
        m.toExternal m.primaryIdAttribute = .ok identifier ∧
        columnSet.CompilesTo m (some (names.map (⟨Sql.defaultAlias, ·⟩))) select ∧
        Distills names (externals ++ [identifier]) ∧ names.count identifier = 1 ∧
        Distills select externals) ∧
    (columnSet.allColumns = true ∨ columnSet.columns = [] →
      columnSet.CompilesTo m none [] ∧
      (∀ q s, q.columnSet = columnSet → Sql.Select.ofQuery m q = .ok s →
        Sql.columnsChars s.columns = ['*']) ∧
      ∀ q o, q.columnSet = columnSet → OData.Options.ofQuery m q = .ok o →
        "$select" ∉ o.pairs.map Prod.fst) := by
  constructor
  · intro some visible described
    have external : ∀ name ∈ columnSet.columns ++ [m.primaryIdAttribute],
        ∃ external, m.toExternal name = .ok external := fun name asked =>
      EntityMetadata.exists_toExternal (described name asked)
    obtain ⟨identifier, identified⟩ :=
      external m.primaryIdAttribute (List.mem_append_right _ List.mem_cons_self)
    obtain ⟨externals, known⟩ := exists_forall₂ fun name asked =>
      external name (List.mem_append_left _ asked)
    have atEnd : identifier ∈ firstOccurrences (externals ++ [identifier]) :=
      mem_firstOccurrences.mpr (List.mem_append_right _ List.mem_cons_self)
    exact ⟨externals, identifier, _, _, known, identified,
      compilesTo_of_restricted (isRestricted_iff.mpr ⟨some, visible⟩) known identified,
      distills_firstOccurrences _, List.count_eq_one_of_mem (nodup_firstOccurrences _) atEnd,
      distills_firstOccurrences _⟩
  · intro everything
    have unrestricted : columnSet.isRestricted = false := by
      rcases everything with all | none
      · simp [isRestricted, all]
      · simp [isRestricted, none]
    have compiled : columnSet.CompilesTo m none [] := compilesTo_of_unrestricted unrestricted
    refine ⟨compiled, fun q s given selected => ?_, fun q o given selected named => ?_⟩
    · rw [compiled.statement q s given selected]
      rfl
    · exact (OData.Options.names_of_pairs o).select.mp named (compiled.options q o given selected)

/-- Four columns with two properties, and a column set that asks for everything beside a column. -/
theorem selected_of_columnSet_sharedName :
    let columnSet : ColumnSet := .only ["label", "id", "title", "label"]
    columnSet.allColumns = false ∧ columnSet.columns ≠ [] ∧
    (∀ name ∈ columnSet.columns ++ [Entity.sharedNameBook.primaryIdAttribute],
      ∃ a ∈ Entity.sharedNameBook.attributes, a.logicalName = name) ∧
    (∃ externals identifier names select,
      List.Forall₂ (fun name external => Entity.sharedNameBook.toExternal name = .ok external)
        columnSet.columns externals ∧
      Entity.sharedNameBook.toExternal Entity.sharedNameBook.primaryIdAttribute =
        .ok identifier ∧
      columnSet.CompilesTo Entity.sharedNameBook
        (some (names.map (⟨Sql.defaultAlias, ·⟩))) select ∧
      Distills names (externals ++ [identifier]) ∧ names.count identifier = 1 ∧
      Distills select externals) ∧
    Sql.columnsOf Entity.sharedNameBook columnSet =
      .ok (some [⟨Sql.defaultAlias, "name"⟩, ⟨Sql.defaultAlias, "bookid"⟩]) ∧
    (⟨true, ["title"]⟩ : ColumnSet).CompilesTo Entity.sharedNameBook none [] := by
  intro columnSet
  have described : ∀ name ∈ columnSet.columns ++ [Entity.sharedNameBook.primaryIdAttribute],
      ∃ a ∈ Entity.sharedNameBook.attributes, a.logicalName = name := by decide
  exact ⟨rfl, List.cons_ne_nil _ _, described,
    (selected_of_columnSet Entity.sharedNameBook columnSet).1 rfl (List.cons_ne_nil _ _) described,
    rfl, ((selected_of_columnSet Entity.sharedNameBook ⟨true, ["title"]⟩).2 (.inl rfl)).1⟩

end ColumnSet

end EntityGateway
