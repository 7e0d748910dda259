import EntityGateway.Proofs.FilterTrees
import EntityGateway.Proofs.Sql.ReadBack
import EntityGateway.Sql.Compile

/-!
# Compiled selections are read back

Every statement that a query is compiled to has the form that the reader of statements undoes, and
so its text tells that statement and no other.
-/

namespace EntityGateway.Sql

open Text

/-! ## Compiled statements -/

theorem Literal.readable_of_ofNumber? {v : Value} {l : Literal} (made : ofNumber? v = some l) :
    l.Readable := by
  cases v with
  | integer n => cases made; trivial
  | option code => cases made; trivial
  | double d =>
      simp only [ofNumber?] at made
      split at made
      · rename_i finite
        cases made
        exact finite
      · cases made
  | money amount => cases made; exact amount.isNumeral_text
  | decimal amount => cases made; exact amount.isNumeral_text
  | _ => cases made

/-- Every literal that a value is compiled to has a text by which it can be read. -/
theorem Literal.readable_of_ofKind? {kind : LiteralKind} {v : Value} {l : Literal}
    (made : ofKind? kind v = some l) : l.Readable := by
  unfold ofKind? at made
  split at made
  · cases made; trivial
  · obtain ⟨text, -, rfl⟩ := Option.map_eq_some_iff.mp made
    trivial
  · obtain ⟨text, read, rfl⟩ := Option.map_eq_some_iff.mp made
    exact isNumeral_of_numericText? read
  · exact readable_of_ofNumber? made
  · cases made; trivial
  · obtain ⟨truth, -, rfl⟩ := Option.map_eq_some_iff.mp made
    trivial
  · cases made
  · cases made; trivial
  · cases made; trivial
  · cases made; trivial
  · cases made; trivial
  · exact readable_of_ofNumber? made

theorem Literal.readable_of_ofValue {a : AttributeMetadata} {v : Value} {l : Literal}
    (made : ofValue a v = .ok l) : l.Readable := by
  unfold ofValue at made
  split at made
  · rename_i literal ofKind
    cases made
    exact readable_of_ofKind? ofKind
  · cases made

theorem Expression.readable_of_ofCondition {m : EntityMetadata} {c : Condition} {e : Expression}
    (compiled : ofCondition m c = .ok e) : e.Readable := by
  unfold ofCondition at compiled
  split at compiled
  · cases compiled
  · split at compiled
    · cases compiled
    · split at compiled
      · obtain ⟨literal, made, rfl⟩ := ok_of_map_eq_ok compiled
        exact .compare _ _ (Literal.readable_of_ofValue made)
      · cases compiled

/-- Every expression that a filter tree is compiled to has a text by which it can be read. -/
theorem Expression.readable_of_ofCriteria {m : EntityMetadata} {g : FilterGroup} {e : Expression}
    (compiled : ofCriteria m g = .ok e) : e.Readable := by
  have node {n : FilterNode} {e : Expression} (compiled : (filterDialect m).node n = .ok e) :
      e.Readable :=
    FilterDialect.node_preserves readable_of_ofCondition .all .any compiled
  obtain ⟨root, rooted, told⟩ := ok_of_map_eq_ok compiled
  unfold FilterDialect.root at rooted
  split at rooted
  · cases rooted
    subst told
    exact .truth true
  · obtain ⟨e', nodeCompiled, rfl⟩ := ok_of_map_eq_ok rooted
    have readable := node nodeCompiled
    split at told
    · subst told
      exact .truth true
    · subst told
      exact .truth true
    · rename_i given
      cases given
      subst told
      exact readable

theorem columns_of_columnsOf {m : EntityMetadata} {columnSet : ColumnSet}
    {columns : List Column} (chosen : columnsOf m columnSet = .ok (some columns)) :
    columns ≠ [] ∧ ∀ column ∈ columns, column.table = defaultAlias := by
  unfold columnsOf at chosen
  split at chosen
  · obtain ⟨names, projected, columns_eq⟩ := ok_of_map_eq_ok chosen
    obtain ⟨all, found, rfl⟩ := ok_of_map_eq_ok projected
    obtain rfl := Option.some.inj columns_eq
    -- the column that identifies a record is always among them
    have some : all ≠ [] := by
      have length := (forall₂_of_mapM_eq_ok found).length_eq
      rintro rfl
      simp at length
    obtain ⟨first, others, rfl⟩ := List.exists_cons_of_ne_nil some
    refine ⟨by simp [List.eraseDups_cons], fun column member => ?_⟩
    obtain ⟨name, -, rfl⟩ := List.mem_map.mp member
    rfl
  · cases chosen

theorem order_of_orderOf {m : EntityMetadata} {orders : List Order} {order : List Ordering}
    (compiled : orderOf m orders = .ok order) : ∀ o ∈ order, o.column.table = defaultAlias := by
  obtain ⟨names, -, rfl⟩ := ok_of_map_eq_ok compiled
  intro o member
  obtain ⟨name, -, rfl⟩ := List.mem_map.mp member
  rfl

/-- Every statement that a query is compiled to has a text by which it can be read. -/
theorem Select.readable_of_ofQuery {m : EntityMetadata} {q : Query} {s : Select}
    (compiled : ofQuery m q = .ok s) : s.Readable := by
  obtain ⟨columns, chosen, compiled⟩ := ok_of_bind_eq_ok compiled
  obtain ⟨order, ordered, compiled⟩ := ok_of_bind_eq_ok compiled
  obtain ⟨condition, filtered, compiled⟩ := ok_of_bind_eq_ok compiled
  cases compiled
  exact {
    aliasName := rfl
    columns := fun names given => columns_of_columnsOf (by rw [chosen, ← given])
    condition := Expression.readable_of_ofCriteria filtered
    order := order_of_orderOf ordered }

/-- Whatever the names in the metadata and the values in the query are, the text of the compiled
statement is read back as that statement: no name and no value is taken for a part of the statement,
and two statements with one text are the same as far as the text tells. -/
theorem readSelect?_of_ofQuery {m : EntityMetadata} {q : Query} {s : Select}
    (compiled : Select.ofQuery m q = .ok s) : readSelect? s.text = some s.asRead :=
  (Select.readable_of_ofQuery compiled).readSelect?_text

/-- An entity whose attributes have names that would be parts of a statement if they were not
quoted. -/
def hostileEntity : EntityMetadata where
  logicalName := "note"
  externalName := "note"
  externalCollectionName := "c a WHERE"
  primaryIdAttribute := "id"
  attributes := [⟨"id", "", .uniqueidentifier⟩, ⟨"text", "\"] = '' OR \\", .string⟩,
    ⟨"size", "select", .double⟩]

/-- A query over every attribute of `hostileEntity`, whose values are hostile as well. -/
def hostileQuery : Query where
  entity := "note"
  columnSet := .only ["text", "size"]
  criteria := .any [.condition ⟨"text", .equal, [.string "\\' OR (true) --"]⟩,
    .group .and [], .group .or [.condition ⟨"size", .lessThan, [.integer (-5)]⟩]]
  orders := [⟨"text", true⟩]
  top := some 10

theorem readSelect?_of_hostileQuery : ∃ s, Select.ofQuery hostileEntity hostileQuery = .ok s ∧
    readSelect? s.text = some s.asRead :=
  ⟨_, rfl, readSelect?_of_ofQuery (m := hostileEntity) (q := hostileQuery) rfl⟩

end EntityGateway.Sql
