import TsqlAlter.Proofs.Server.Table

/-!
# A table by its columns

A catalog lists a table column by column, each with the default constraint that depends on it and
under a key of its own. A key stays with its column when that is renamed, so that every statement
about one column changes a single row, and what statements about different columns do can be told
apart.

`Lists` says that a catalog lists a table. `Free`, `Unused` and `Owns` say of a name that no column,
no default constraint or no other row has it. `catalogWith` is the catalog of a table under the
names its columns have now.

Results:
* `Lists.getElem?_constraints_iff`: the default constraints of a column are those of its row.
* `Lists.set`: a table that differs in one column is listed by a catalog that differs in one row.
* `WellNamed.lists_catalog`: where default constraints are named after their columns, the catalog of
  a table can be read off.

Left out: the order of the columns. A table finds them by name.
-/

namespace TsqlAlter

open Std (ExtTreeMap)

/-- A column of a table, with its default constraint. -/
structure Row where
  name : String
  attributes : Attributes
  default : Option DefaultConstraint
deriving DecidableEq, Repr

/-- The columns of a table, by keys that do not change. -/
structure Catalog where
  name : String
  rows : String → Option Row

namespace Catalog

variable {c : Catalog} {t : Table} {i j k m n : String} {a b : Attributes} {d : DefaultConstraint}
  {default : Option DefaultConstraint} {row : Row}

/-- The catalog with a row, or without one. -/
def set (c : Catalog) (i : String) (row : Option Row) : Catalog :=
  { c with rows := Function.update c.rows i row }

theorem rows_set (c : Catalog) (i j : String) (row : Option Row) :
    (c.set i row).rows j = if j = i then row else c.rows j := Function.update_apply ..

@[simp] theorem rows_set_self (c : Catalog) (i : String) (row : Option Row) :
    (c.set i row).rows i = row := Function.update_self ..

theorem rows_set_of_ne (row : Option Row) (h : j ≠ i) : (c.set i row).rows j = c.rows j :=
  Function.update_of_ne h ..

@[simp] theorem set_set (c : Catalog) (i : String) (row row' : Option Row) :
    (c.set i row).set i row' = c.set i row' := by
  unfold set
  rw [Function.update_idem]

theorem set_eq_self {row : Option Row} (h : c.rows i = row) : c.set i row = c := by
  subst h
  unfold set
  rw [Function.update_eq_self]

/-- No column has the name. -/
def Free (c : Catalog) (n : String) : Prop := ∀ i row, c.rows i = some row → row.name ≠ n

/-- No default constraint has the name. -/
def Unused (c : Catalog) (k : String) : Prop :=
  ∀ i row d, c.rows i = some row → row.default = some d → d.name ≠ k

/-- No default constraint has the name, that of one row apart. -/
def UnusedBut (c : Catalog) (i k : String) : Prop :=
  ∀ j row d, j ≠ i → c.rows j = some row → row.default = some d → d.name ≠ k

theorem UnusedBut.set (h : c.UnusedBut i k) {new : Option Row}
    (own : ∀ row d, new = some row → row.default = some d → d.name ≠ k) :
    (c.set i new).Unused k := by
  intro j row d hj hd
  rw [rows_set] at hj
  split at hj
  · exact own row d hj hd
  · next hji => exact h j row d hji hj hd

theorem UnusedBut.unused (h : c.UnusedBut i k)
    (own : ∀ row d, c.rows i = some row → row.default = some d → d.name ≠ k) : c.Unused k := by
  have same := h.set own
  rwa [set_eq_self rfl] at same

/-- **The catalog lists the table**: its columns and its default constraints are those of the rows,
and no two rows have one name. -/
structure Lists (c : Catalog) (t : Table) : Prop where
  name : t.name = c.name
  columns (n : String) (a : Attributes) :
    t.columns[n]? = some a ↔ ∃ i default, c.rows i = some ⟨n, a, default⟩
  constraints (k n literal : String) :
    t.constraints[k]? = some ⟨n, literal⟩ ↔ ∃ i a, c.rows i = some ⟨n, a, some ⟨k, literal⟩⟩
  key_eq (i j : String) (row row' : Row) :
    c.rows i = some row → c.rows j = some row' → row.name = row'.name → i = j

/-! ## What a row says of the table -/

namespace Lists

theorem getElem?_columns (h : c.Lists t) (hi : c.rows i = some ⟨n, a, default⟩) :
    t.columns[n]? = some a := (h.columns n a).2 ⟨i, default, hi⟩

theorem mem_columns_iff (h : c.Lists t) :
    n ∈ t.columns ↔ ∃ i row, c.rows i = some row ∧ row.name = n := by
  rw [ExtTreeMap.mem_iff_isSome_getElem?, Option.isSome_iff_exists]
  constructor
  · rintro ⟨a, ha⟩
    obtain ⟨i, default, hi⟩ := (h.columns n a).1 ha
    exact ⟨i, _, hi, rfl⟩
  · rintro ⟨i, row, hi, rfl⟩
    exact ⟨row.attributes, h.getElem?_columns hi⟩

theorem notMem_columns (h : c.Lists t) (free : c.Free n) : n ∉ t.columns := by
  rw [h.mem_columns_iff]
  rintro ⟨i, row, hi, e⟩
  exact free i row hi e

theorem free (h : c.Lists t) (absent : n ∉ t.columns) : c.Free n :=
  fun i row hi e => absent (h.mem_columns_iff.2 ⟨i, row, hi, e⟩)

theorem mem_constraints (h : c.Lists t) (hi : c.rows i = some ⟨n, a, some d⟩) :
    d.name ∈ t.constraints := by
  rw [ExtTreeMap.mem_iff_isSome_getElem?, (h.constraints d.name n d.literal).2 ⟨i, a, hi⟩]
  rfl

theorem notMem_constraints (h : c.Lists t) (unused : c.Unused k) : k ∉ t.constraints := by
  rw [ExtTreeMap.mem_iff_isSome_getElem?, Option.isSome_iff_exists]
  rintro ⟨⟨n, literal⟩, he⟩
  obtain ⟨i, a, hi⟩ := (h.constraints k n literal).1 he
  exact unused i _ _ hi rfl rfl

theorem unusedBut (h : c.Lists t) (hi : c.rows i = some row)
    (own : ∀ e : ColumnDefault, t.constraints[k]? = some e → e.column = row.name) :
    c.UnusedBut i k := by
  rintro j ⟨n, a, default⟩ d other hj rfl rfl
  have held := (h.constraints d.name n d.literal).2 ⟨j, a, hj⟩
  exact other (h.key_eq j i _ row hj hi (own _ held))

end Lists

/-- The default constraints of the column of a row. -/
theorem Lists.getElem?_constraints_iff (h : c.Lists t) (hi : c.rows i = some ⟨n, a, default⟩)
    (k literal : String) :
    t.constraints[k]? = some ⟨n, literal⟩ ↔ default = some ⟨k, literal⟩ := by
  rw [h.constraints]
  constructor
  · rintro ⟨j, b, hj⟩
    cases h.key_eq i j _ _ hi hj rfl
    rw [hi] at hj
    cases hj
    rfl
  · rintro rfl
    exact ⟨i, a, hi⟩

theorem Lists.hasDefault_eq (h : c.Lists t) (hi : c.rows i = some ⟨n, a, default⟩) :
    t.hasDefault n = default.isSome := by
  rw [Bool.eq_iff_iff, Table.hasDefault_iff, Option.isSome_iff_exists]
  constructor
  · rintro ⟨k, ⟨m, literal⟩, he, rfl⟩
    exact ⟨_, (h.getElem?_constraints_iff hi k literal).1 he⟩
  · rintro ⟨d, rfl⟩
    exact ⟨d.name, ⟨n, d.literal⟩, (h.getElem?_constraints_iff hi _ _).2 rfl, rfl⟩

/-! ## What becomes of the rows when the table changes -/

/-- No row but that of the key has the name. -/
def Owns (c : Catalog) (i n : String) : Prop := ∀ j row, c.rows j = some row → row.name = n → j = i

theorem Free.owns (free : c.Free n) (i : String) : c.Owns i n :=
  fun j row hj e => absurd e (free j row hj)

theorem Lists.owns (h : c.Lists t) (hi : c.rows i = some row) : c.Owns i row.name :=
  fun j row' hj e => h.key_eq j i row' row hj hi e

/-- The columns that a row is not about. -/
theorem Lists.exists_columns_but (h : c.Lists t) (i n : String) (a : Attributes) :
    (∃ j default, j ≠ i ∧ c.rows j = some ⟨n, a, default⟩) ↔
      t.columns[n]? = some a ∧ (c.rows i).map Row.name ≠ some n := by
  constructor
  · rintro ⟨j, default, hji, hj⟩
    refine ⟨h.getElem?_columns hj, fun e => ?_⟩
    obtain ⟨row, hi, e⟩ := Option.map_eq_some_iff.1 e
    exact hji (h.key_eq j i _ row hj hi e.symm)
  · rintro ⟨ha, other⟩
    obtain ⟨j, default, hj⟩ := (h.columns n a).1 ha
    refine ⟨j, default, fun e => ?_, hj⟩
    subst e
    simp [hj] at other

/-- The default constraints that a row is not about. -/
theorem Lists.exists_constraints_but (h : c.Lists t) (i k n literal : String) :
    (∃ j a, j ≠ i ∧ c.rows j = some ⟨n, a, some ⟨k, literal⟩⟩) ↔
      t.constraints[k]? = some ⟨n, literal⟩ ∧ (c.rows i).map Row.name ≠ some n := by
  constructor
  · rintro ⟨j, a, hji, hj⟩
    refine ⟨(h.constraints k n literal).2 ⟨j, a, hj⟩, fun e => ?_⟩
    obtain ⟨row, hi, e⟩ := Option.map_eq_some_iff.1 e
    exact hji (h.key_eq j i _ row hj hi e.symm)
  · rintro ⟨he, other⟩
    obtain ⟨j, a, hj⟩ := (h.constraints k n literal).1 he
    refine ⟨j, a, fun e => ?_, hj⟩
    subst e
    simp [hj] at other

/-- **A table that differs in one column.** It has the column and the constraint of the new row, and
those that the old row was not about. -/
theorem Lists.set (h : c.Lists t) {u : Table} {new : Option Row} (name : u.name = t.name)
    (owns : ∀ n, new.map Row.name = some n → c.Owns i n)
    (columns : ∀ n a, u.columns[n]? = some a ↔
      new.map (fun row => (row.name, row.attributes)) = some (n, a) ∨
      t.columns[n]? = some a ∧ (c.rows i).map Row.name ≠ some n)
    (constraints : ∀ k n literal, u.constraints[k]? = some ⟨n, literal⟩ ↔
      new.map (fun row => (row.name, row.default)) = some (n, some ⟨k, literal⟩) ∨
      t.constraints[k]? = some ⟨n, literal⟩ ∧ (c.rows i).map Row.name ≠ some n) :
    (c.set i new).Lists u where
  name := name.trans h.name
  columns n a := by
    rw [columns, ← h.exists_columns_but i n a]
    constructor
    · rintro (e | ⟨j, default, hji, hj⟩)
      · obtain ⟨row, rfl, e⟩ := Option.map_eq_some_iff.1 e
        cases e
        exact ⟨i, row.default, c.rows_set_self ..⟩
      · exact ⟨j, default, (rows_set_of_ne _ hji).trans hj⟩
    · rintro ⟨j, default, hj⟩
      by_cases hji : j = i
      · subst hji
        rw [rows_set_self] at hj
        exact .inl (by rw [hj]; rfl)
      · exact .inr ⟨j, default, hji, (rows_set_of_ne _ hji).symm.trans hj⟩
  constraints k n literal := by
    rw [constraints, ← h.exists_constraints_but i k n literal]
    constructor
    · rintro (e | ⟨j, a, hji, hj⟩)
      · obtain ⟨⟨m, a, default⟩, rfl, e⟩ := Option.map_eq_some_iff.1 e
        cases e
        exact ⟨i, a, c.rows_set_self ..⟩
      · exact ⟨j, a, (rows_set_of_ne _ hji).trans hj⟩
    · rintro ⟨j, a, hj⟩
      by_cases hji : j = i
      · subst hji
        rw [rows_set_self] at hj
        exact .inl (by rw [hj]; rfl)
      · exact .inr ⟨j, a, hji, (rows_set_of_ne _ hji).symm.trans hj⟩
  key_eq j j' row row' hj hj' same := by
    have owns_row {r : Row} (e : new = some r) : c.Owns i r.name := owns r.name (by rw [e]; rfl)
    rw [rows_set] at hj hj'
    split at hj <;> split at hj'
    · next hji hji' => exact hji.trans hji'.symm
    · next hji _ => exact hji.trans (owns_row hj j' row' hj' same.symm).symm
    · next _ hji' => exact (owns_row hj' j row hj same).trans hji'.symm
    · exact h.key_eq j j' row row' hj hj' same

/-- A new column, without a default. -/
theorem Lists.addColumn (h : c.Lists t) (free : c.Free n) (hi : c.rows i = none) :
    (c.set i (some ⟨n, a, none⟩)).Lists (t.setColumn n a) := by
  have absent : n ∉ t.columns := h.notMem_columns free
  refine h.set rfl (fun m e => by cases e; exact free.owns i) (fun m b => ?_) fun k m literal => ?_
  · simp only [hi, Table.setColumn]
    grind
  · simp [hi, Table.setColumn]

/-- A column without a default gets other attributes. -/
theorem Lists.redefineColumn (h : c.Lists t) (hi : c.rows i = some ⟨n, a, none⟩) :
    (c.set i (some ⟨n, b, none⟩)).Lists (t.setColumn n b) := by
  have owns : c.Owns i n := h.owns hi
  refine h.set rfl (fun m e => by cases e; exact owns) (fun m b' => ?_) fun k m literal => ?_
  · simp only [hi, Table.setColumn]
    grind
  · have bare := h.getElem?_constraints_iff hi k literal
    simp only [hi, Table.setColumn]
    grind

/-- A column without a default is dropped. -/
theorem Lists.dropColumn (h : c.Lists t) (hi : c.rows i = some ⟨n, a, none⟩) :
    (c.set i none).Lists (t.dropColumn n) := by
  refine h.set rfl (fun m e => by cases e) (fun m b => ?_) fun k m literal => ?_
  · simp only [hi, Table.dropColumn]
    grind
  · have bare := h.getElem?_constraints_iff hi k literal
    simp only [hi, Table.dropColumn]
    grind

/-- A column without a default gets one. -/
theorem Lists.setDefault (h : c.Lists t) (hi : c.rows i = some ⟨n, a, none⟩)
    (unused : c.Unused d.name) : (c.set i (some ⟨n, a, some d⟩)).Lists (t.setDefault n d) := by
  have owns : c.Owns i n := h.owns hi
  have absent := h.notMem_constraints unused
  obtain ⟨name, literal⟩ := d
  refine h.set rfl (fun m e => by cases e; exact owns) (fun m b => ?_) fun k m literal' => ?_
  · have old := h.getElem?_columns hi
    simp only [hi, Table.setDefault]
    grind
  · have bare := h.getElem?_constraints_iff hi k literal'
    simp only [hi, Table.setDefault]
    grind

/-- A column loses its default. -/
theorem Lists.dropDefault (h : c.Lists t) (hi : c.rows i = some ⟨n, a, some d⟩) :
    (c.set i (some ⟨n, a, none⟩)).Lists (t.dropDefault d.name) := by
  have owns : c.Owns i n := h.owns hi
  have held := (h.getElem?_constraints_iff hi d.name d.literal).2 rfl
  refine h.set rfl (fun m e => by cases e; exact owns) (fun m b => ?_) fun k m literal => ?_
  · have old := h.getElem?_columns hi
    simp only [hi, Table.dropDefault]
    grind
  · have one := h.getElem?_constraints_iff hi k literal
    simp only [hi, Table.dropDefault]
    grind

/-- A column gets another name, its default following it. -/
theorem Lists.renameColumn (h : c.Lists t) (hi : c.rows i = some ⟨n, a, default⟩)
    (free : c.Free m) :
    (c.set i (some ⟨m, a, default⟩)).Lists (t.renameColumn n m a) := by
  have absent := h.notMem_columns free
  have owns : c.Owns i m := free.owns i
  refine h.set rfl (fun m' e => by cases e; exact owns) (fun m' b => ?_) fun k m' literal => ?_
  · simp only [hi, Table.renameColumn]
    grind
  · have one := h.getElem?_constraints_iff hi k literal
    rw [Table.column_renameColumn]
    simp only [hi]
    grind

/-- The table gets another name. -/
theorem Lists.renameTable (h : c.Lists t) (name : String) :
    { c with name := name }.Lists { t with name := name } where
  name := rfl
  columns := h.columns
  constraints := h.constraints
  key_eq := h.key_eq

end Catalog

/-! ## The catalog of a table -/

namespace Table

variable {t : Table} {n : String} {row : Row}

/-- A catalog of a table, the keys being the names the columns have now. The default constraints are
given. -/
def catalogWith (t : Table) (default : String → Option DefaultConstraint) : Catalog where
  name := t.name
  rows n := t.columns[n]?.map fun a => ⟨n, a, default n⟩

section CatalogWith

variable {default : String → Option DefaultConstraint}

theorem rows_catalogWith_eq_some_iff :
    (t.catalogWith default).rows n = some row ↔
      t.columns[n]? = some row.attributes ∧ row.name = n ∧ row.default = default n := by
  unfold catalogWith
  rw [Option.map_eq_some_iff]
  constructor
  · rintro ⟨a, ha, rfl⟩
    exact ⟨ha, rfl, rfl⟩
  · rintro ⟨ha, hn, hd⟩
    subst hn
    exact ⟨_, ha, by rw [← hd]⟩

/-- It lists the table if the given constraints are those that depend on the columns. -/
theorem lists_catalogWith
    (present : ∀ (k : String) (e : ColumnDefault), t.constraints[k]? = some e →
      e.column ∈ t.columns)
    (held : ∀ n d, default n = some d ↔ t.constraints[d.name]? = some ⟨n, d.literal⟩) :
    (t.catalogWith default).Lists t where
  name := rfl
  columns n a := by
    constructor
    · intro ha
      exact ⟨n, _, rows_catalogWith_eq_some_iff.2 ⟨ha, rfl, rfl⟩⟩
    · rintro ⟨i, default, hi⟩
      obtain ⟨ha, rfl, -⟩ := rows_catalogWith_eq_some_iff.1 hi
      exact ha
  constraints k n literal := by
    constructor
    · intro he
      have there : n ∈ t.columns := present k _ he
      refine ⟨n, t.columns[n], rows_catalogWith_eq_some_iff.2 ⟨?_, rfl, ?_⟩⟩
      · exact ExtTreeMap.getElem?_eq_some_getElem there
      · exact ((held n ⟨k, literal⟩).2 he).symm
    · rintro ⟨i, a, hi⟩
      obtain ⟨-, rfl, hd⟩ := rows_catalogWith_eq_some_iff.1 hi
      exact (held n ⟨k, literal⟩).1 hd.symm
  key_eq i j row row' hi hj same := by
    obtain ⟨-, rfl, -⟩ := rows_catalogWith_eq_some_iff.1 hi
    obtain ⟨-, rfl, -⟩ := rows_catalogWith_eq_some_iff.1 hj
    exact same

end CatalogWith

/-- The default constraint of a column, if it is named after the table and the column. -/
def namedDefault? (t : Table) (column : String) : Option DefaultConstraint :=
  t.constraints[Sql.constraintName t.name column]?.bind fun e =>
    if e.column = column then some ⟨Sql.constraintName t.name column, e.literal⟩ else none

/-- The catalog of a table with the default constraints that are named after their columns. -/
def catalog (t : Table) : Catalog := t.catalogWith t.namedDefault?

theorem namedDefault?_eq_some_iff {d : DefaultConstraint} :
    t.namedDefault? n = some d ↔
      d.name = Sql.constraintName t.name n ∧ t.constraints[d.name]? = some ⟨n, d.literal⟩ := by
  unfold namedDefault?
  rw [Option.bind_eq_some_iff]
  constructor
  · rintro ⟨e, he, hd⟩
    split at hd
    · next hc =>
      cases hd
      exact ⟨rfl, by rw [he, ← hc]⟩
    · cases hd
  · rintro ⟨hn, hd⟩
    rw [hn] at hd
    exact ⟨_, hd, by rw [if_pos rfl, ← hn]⟩

/-- Where default constraints are named after their columns, the catalog lists the table. -/
theorem WellNamed.lists_catalog (h : t.WellNamed) : t.catalog.Lists t :=
  lists_catalogWith (fun k e he => (h k e he).1) fun _ d =>
    ⟨fun named => (namedDefault?_eq_some_iff.1 named).2,
      fun held => namedDefault?_eq_some_iff.2 ⟨(h d.name _ held).2, held⟩⟩

/-- In the catalog of a table, the names are as they should be. -/
theorem name_of_rows_catalog {d : DefaultConstraint} (h : t.catalog.rows n = some row)
    (hd : row.default = some d) : d.name = Sql.constraintName t.name n := by
  obtain ⟨-, -, e⟩ := rows_catalogWith_eq_some_iff.1 h
  exact (namedDefault?_eq_some_iff.1 (e.symm.trans hd)).1

/-- The row of a column that is there. -/
theorem WellNamed.exists_row (h : t.WellNamed) (hn : n ∈ t.columns) :
    ∃ a default, t.catalog.rows n = some ⟨n, a, default⟩ ∧ t.hasDefault n = default.isSome ∧
      ∀ d, default = some d → d.name = Sql.constraintName t.name n := by
  have row : t.catalog.rows n = some ⟨n, t.columns[n], t.namedDefault? n⟩ :=
    rows_catalogWith_eq_some_iff.2 ⟨ExtTreeMap.getElem?_eq_some_getElem hn, rfl, rfl⟩
  exact ⟨_, _, row, h.lists_catalog.hasDefault_eq row, fun d hd => name_of_rows_catalog row hd⟩

theorem WellNamed.mem_columns (h : t.WellNamed) (held : t.hasDefault n = true) : n ∈ t.columns := by
  obtain ⟨k, e, he, rfl⟩ := hasDefault_iff.1 held
  exact (h k e he).1

end Table

end TsqlAlter
