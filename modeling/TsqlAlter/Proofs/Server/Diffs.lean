import TsqlAlter.Proofs.Server.Entries

/-!
# What the statements of a diff do

A diff suits a table if it speaks of columns that are there, each once, gives names that are not,
and agrees with the table on which columns have a default constraint. The statements that a platform
compiles such a diff to are executed by the server, and what they make of the table can be said
column by column.

`Suits` is what a diff and a table have to agree on. `moves` are the new and old names of the
columns that get a new one, and `home` leads from a name back to the one before the diff.

Results:
* `home_eq_of_mem_moves`, `home_eq_self`: the name a column had before the diff.
* `exists_replaced`, `exists_altered`: the table after its added and removed columns, and after the
  changed and renamed ones.
* `exists_outcome`: the statements of a diff are executed, and their outcome.

Left out: diffs that swap two names, or give a name that another entry sets free.
-/

namespace TsqlAlter

open Std (ExtTreeMap)

variable {r : Release} {d : TableDiff} {t : Table} {c c' : Catalog} {ss : List Statement}

namespace TableDiff

/-! ## Diffs that suit a table -/

/-- The names of the columns that have to be there. -/
def oldNames (d : TableDiff) : List String :=
  d.removed.map Column.name ++ d.changed.map Change.oldName ++ d.renamed.map Rename.oldName

theorem mem_oldNames_of_removed {x : Column} (hx : x ∈ d.removed) : x.name ∈ d.oldNames :=
  List.mem_append_left _ (List.mem_append_left _ (List.mem_map_of_mem hx))

theorem mem_oldNames_of_changed {x : Change} (hx : x ∈ d.changed) : x.oldName ∈ d.oldNames :=
  List.mem_append_left _ (List.mem_append_right _ (List.mem_map_of_mem hx))

theorem mem_oldNames_of_renamed {x : Rename} (hx : x ∈ d.renamed) : x.oldName ∈ d.oldNames :=
  List.mem_append_right _ (List.mem_map_of_mem hx)

/-- The new and the old names of the columns that get a new one. -/
def moves (d : TableDiff) : List (String × String) :=
  (d.changed.filter Change.renames).map (fun x => (x.after.name, x.oldName)) ++
    d.renamed.map fun x => (x.column.name, x.oldName)

/-- The names that must not be there. -/
def newNames (d : TableDiff) : List String := d.added.map Column.name ++ d.moves.map Prod.fst

/-- All names of columns, those of a table and those the diff gives. -/
def columnNames (d : TableDiff) (t : Table) : Set String := {n | n ∈ t.columns ∨ n ∈ d.newNames}

/-- **The diff suits the table.** -/
structure Suits (d : TableDiff) (t : Table) : Prop where
  name : d.name = t.name
  old_nodup : d.oldNames.Nodup
  new_nodup : d.newNames.Nodup
  present : ∀ n ∈ d.oldNames, n ∈ t.columns
  absent : ∀ n ∈ d.newNames, n ∉ t.columns
  removed : ∀ x ∈ d.removed, x.hasConstraint = t.hasDefault x.name
  changed : ∀ x ∈ d.changed, ∃ before after, x = .between before after ∧
    before.hasConstraint = t.hasDefault before.name

/-- The name that a column had before the diff. -/
def home (d : TableDiff) (n : String) : String := (d.moves.lookup n).getD n

theorem home_eq_of_mem_moves {n o : String} (nodup : d.newNames.Nodup) (h : (n, o) ∈ d.moves) :
    d.home n = o := by
  have nodup : (d.moves.map Prod.fst).Nodup := (List.nodup_append.1 nodup).2.1
  unfold home
  generalize d.moves = moves at nodup h
  induction moves with
  | nil => cases h
  | cons move more ih =>
    rw [List.map_cons, List.nodup_cons] at nodup
    rw [List.lookup_cons]
    rcases List.mem_cons.1 h with rfl | h
    · rw [beq_self_eq_true]
      rfl
    · have other : n ≠ move.1 := fun same =>
        nodup.1 (same ▸ List.mem_map_of_mem (f := Prod.fst) h)
      rw [beq_false_of_ne other]
      exact ih nodup.2 h

theorem home_eq_self {n : String} (h : n ∉ d.moves.map Prod.fst) : d.home n = n := by
  unfold home
  rw [List.lookup_eq_none_iff.2]
  · rfl
  · intro move hm
    have other : n ≠ move.1 := fun same => h (same ▸ List.mem_map_of_mem hm)
    exact bne_iff_ne.2 other

namespace Suits

theorem home_of_mem_columns (h : d.Suits t) {n : String} (hn : n ∈ t.columns) : d.home n = n := by
  refine home_eq_self fun moved => h.absent n ?_ hn
  exact List.mem_append_right _ moved

theorem home_of_mem_added (h : d.Suits t) {x : Column} (hx : x ∈ d.added) :
    d.home x.name = x.name := by
  refine home_eq_self fun moved => ?_
  have apart := (List.nodup_append.1 h.new_nodup).2.2
  exact apart _ (List.mem_map_of_mem hx) _ moved rfl

/-- A changed column: its two versions, and where its new name belongs. -/
theorem of_mem_changed (h : d.Suits t) {x : Change} (hx : x ∈ d.changed) :
    d.home x.after.name = x.oldName ∧ x.after.name ∈ d.columnNames t ∧
      x.oldName = x.before.name ∧ x.before.hasConstraint = t.hasDefault x.oldName ∧
      (x.renames = false → x.after.name = x.oldName) := by
  obtain ⟨before, after, rfl, constrained⟩ := h.changed x hx
  have there : before.name ∈ t.columns :=
    h.present _ (mem_oldNames_of_changed hx)
  by_cases renames : (Change.between before after).renames = true
  · have move : (after.name, before.name) ∈ d.moves :=
      List.mem_append_left _ (List.mem_map_of_mem (List.mem_filter.2 ⟨hx, renames⟩))
    refine ⟨home_eq_of_mem_moves h.new_nodup move, .inr ?_, rfl, constrained, fun stays => ?_⟩
    · exact List.mem_append_right _ (List.mem_map_of_mem move)
    · rw [renames] at stays
      cases stays
  · have same : after.name = before.name := by
      rw [Change.renames_between, bne_iff_ne, not_not] at renames
      exact renames.symm
    refine ⟨?_, .inl ?_, rfl, constrained, fun _ => same⟩
    · show d.home after.name = before.name
      rw [same]
      exact h.home_of_mem_columns there
    · show after.name ∈ t.columns
      rw [same]
      exact there

end Suits

end TableDiff

/-! ## The entries of a diff -/

namespace Catalog

variable (suits : d.Suits t) (distinct : Set.InjOn Checksum.hash (d.columnNames t))
  (name : c.name = d.name) (traced : c.Traced d.home (d.columnNames t))

include suits name traced

include distinct in
/-- All columns are added. -/
theorem carries_additions {additions : List Statement}
    (adds : List.Forall₂ (r.dialect.Adds d.name) d.added additions)
    (absent : ∀ x ∈ d.added, c.rows x.name = none) :
    ∃ c', Carries additions c c' ∧ c'.name = d.name ∧ c'.Traced d.home (d.columnNames t) ∧
      (∀ i, i ∉ d.added.map Column.name → c'.rows i = c.rows i) ∧
      ∀ x ∈ d.added, ∃ new, c'.rows x.name = some new ∧ r.dialect.MakesAdded d.name x new := by
  refine exists_carries_of_forall₂_singleton Column.name (fun _ row => row = none)
    (fun x _ row => ∃ new, row = some new ∧ r.dialect.MakesAdded d.name x new) adds ?_
    (List.nodup_append.1 suits.new_nodup).1 name traced absent
  intro x hx s c adds name traced absent
  have given : x.name ∈ d.columnNames t := .inr (List.mem_append_left _ (List.mem_map_of_mem hx))
  obtain ⟨new, carried, traced, made⟩ := carries_addition adds name traced distinct given
    (suits.home_of_mem_added hx) absent
  exact ⟨some new, carried, traced, new, rfl, made⟩

/-- The removed columns lose their default constraints. -/
theorem carries_guardedDrops
    (found : ∀ x ∈ d.removed, ∃ a default, c.rows x.name = some ⟨x.name, a, default⟩ ∧
      x.hasConstraint = default.isSome ∧
      ∀ e, default = some e → e.name = Sql.constraintName d.name x.name) :
    ∃ c', Carries (guardedDrops d) c c' ∧ c'.name = d.name ∧ c'.Traced d.home (d.columnNames t) ∧
      (∀ i, i ∉ d.removed.map Column.name → c'.rows i = c.rows i) ∧
      ∀ x ∈ d.removed, ∃ a, c'.rows x.name = some ⟨x.name, a, none⟩ := by
  let part (x : Column) : List Statement :=
    if x.hasConstraint then
      [.dropDefaultIfExists d.name (Sql.constraintName d.name x.name)] else []
  have parts : guardedDrops d = (d.removed.map part).flatten := by
    unfold guardedDrops
    induction d.removed with
    | nil => rfl
    | cons x more ih =>
      rw [List.filter_cons, List.map_cons, List.flatten_cons, ← ih]
      cases hx : x.hasConstraint <;> simp [part, hx]
  have emits : List.Forall₂ (fun x p => p = part x) d.removed (d.removed.map part) :=
    List.forall₂_map_right_iff.2 (List.forall₂_same.2 fun _ _ => rfl)
  rw [parts]
  refine exists_carries_of_forall₂ Column.name
    (fun x row => ∃ a default, row = some ⟨x.name, a, default⟩ ∧
      x.hasConstraint = default.isSome ∧
      ∀ e, default = some e → e.name = Sql.constraintName d.name x.name)
    (fun x _ row => ∃ a, row = some ⟨x.name, a, none⟩) emits ?_
    (List.nodup_append.1 (List.nodup_append.1 suits.old_nodup).1).1 name traced found
  rintro x hx _ c rfl name traced ⟨a, default, hr, constrained, named⟩
  refine ⟨some ⟨x.name, a, none⟩, ?_, traced.set fun row e => ?_, a, rfl⟩
  · cases default with
    | none =>
      simp only [part, constrained, Option.isSome_none, Bool.false_eq_true, if_false]
      rw [set_eq_self hr]
      exact carries_nil c
    | some e =>
      simp only [part, constrained, Option.isSome_some, if_true]
      rw [← named e rfl]
      exact carries_dropDefaultIfExists name hr
  · cases e
    exact ⟨(traced _ _ hr).name, fun e he => by cases he⟩

/-- The removed columns are dropped, once they have no default constraints. -/
theorem carries_removals
    (bare : ∀ x ∈ d.removed, ∃ a, c.rows x.name = some ⟨x.name, a, none⟩) :
    ∃ c', Carries (Dialect.removals d) c c' ∧ c'.name = d.name ∧
      c'.Traced d.home (d.columnNames t) ∧
      (∀ i, i ∉ d.removed.map Column.name → c'.rows i = c.rows i) ∧
      ∀ x ∈ d.removed, c'.rows x.name = none := by
  have emits : List.Forall₂ (fun x s => s = .dropColumn d.name x.name) d.removed
      (Dialect.removals d) := List.forall₂_map_right_iff.2 (List.forall₂_same.2 fun _ _ => rfl)
  refine exists_carries_of_forall₂_singleton Column.name
    (fun x row => ∃ a, row = some ⟨x.name, a, none⟩) (fun _ _ row => row = none)
    emits ?_ (List.nodup_append.1 (List.nodup_append.1 suits.old_nodup).1).1 name traced bare
  rintro x hx _ c rfl name traced ⟨a, hr⟩
  exact ⟨none, carries_dropColumn name hr, traced.set (fun _ e => by cases e), rfl⟩

include distinct in
/-- The changed columns are changed, each by its change or by one that stands for it. -/
theorem carries_changes {Becomes : Change → Change → Prop}
    (stands : ∀ x k, Becomes x k → k.StandsFor x) {changes : List (List Statement)}
    (emits : List.Forall₂ (fun x part => ∃ k, Becomes x k ∧
      r.dialect.changeStatements d.name k = .ok part) d.changed changes)
    (found : ∀ x ∈ d.changed, ∃ old, c.rows x.oldName = some old ∧ x.Finds d.name old) :
    ∃ c', Carries changes.flatten c c' ∧ c'.name = d.name ∧
      c'.Traced d.home (d.columnNames t) ∧
      (∀ i, i ∉ d.changed.map Change.oldName → c'.rows i = c.rows i) ∧
      ∀ x ∈ d.changed, ∃ k old new, Becomes x k ∧ c.rows x.oldName = some old ∧
        c'.rows x.oldName = some new ∧ r.dialect.MakesChanged d.name k old new := by
  refine exists_carries_of_forall₂ Change.oldName
    (fun x row => ∃ old, row = some old ∧ x.Finds d.name old)
    (fun x row row' => ∃ k old new, Becomes x k ∧ row = some old ∧
      row' = some new ∧ r.dialect.MakesChanged d.name k old new) emits ?_
    (List.nodup_append.1 (List.nodup_append.1 suits.old_nodup).1).2.1 name traced found
  rintro x hx part c ⟨k, becomes, emitted⟩ name traced ⟨old, hr, finds⟩
  obtain ⟨own, given, -, -, kept⟩ := suits.of_mem_changed hx
  have there : x.oldName ∈ t.columns := suits.present _ (TableDiff.mem_oldNames_of_changed hx)
  obtain ⟨sameName, sameBefore, sameAfter, renames⟩ := stands x k becomes
  rw [← sameAfter] at own given kept
  rw [← sameName] at own there kept hr ⊢
  rw [← renames] at kept
  obtain ⟨new, carried, traced, made⟩ := carries_change emitted name traced distinct hr
    ⟨sameName ▸ finds.name, sameBefore ▸ finds.constrained, sameName ▸ finds.named⟩
    ⟨.inl there, suits.home_of_mem_columns there⟩ ⟨given, own⟩ kept
  exact ⟨some new, carried, traced, k, old, new, becomes, hr, rfl, made⟩

/-- The renamed columns get their names. -/
theorem carries_columnRenames
    (found : ∀ x ∈ d.renamed, ∃ a default, c.rows x.oldName = some ⟨x.oldName, a, default⟩) :
    ∃ c', Carries (Dialect.columnRenames d) c c' ∧ c'.name = d.name ∧
      c'.Traced d.home (d.columnNames t) ∧
      (∀ i, i ∉ d.renamed.map Rename.oldName → c'.rows i = c.rows i) ∧
      ∀ x ∈ d.renamed, ∃ old, c.rows x.oldName = some old ∧
        c'.rows x.oldName = some { old with name := x.column.name } := by
  have emits : List.Forall₂ (fun x s => s = .renameColumn d.name x.oldName x.column.name) d.renamed
      (Dialect.columnRenames d) := List.forall₂_map_right_iff.2 (List.forall₂_same.2 fun _ _ => rfl)
  refine exists_carries_of_forall₂_singleton Rename.oldName
    (fun x row => ∃ a default, row = some ⟨x.oldName, a, default⟩)
    (fun x row row' => ∃ old, row = some old ∧
      row' = some { old with name := x.column.name })
    emits ?_ (List.nodup_append.1 suits.old_nodup).2.1 name traced found
  rintro x hx _ c rfl name traced ⟨a, default, hr⟩
  have move : (x.column.name, x.oldName) ∈ d.moves :=
    List.mem_append_right _ (List.mem_map_of_mem hx)
  have own : d.home x.column.name = x.oldName := TableDiff.home_eq_of_mem_moves suits.new_nodup move
  have differ : x.oldName ≠ x.column.name := fun same => by
    refine suits.absent x.column.name (List.mem_append_right _ (List.mem_map_of_mem move)) ?_
    rw [← same]
    exact suits.present _ (TableDiff.mem_oldNames_of_renamed hx)
  have free : c.Free x.column.name := traced.free fun row e => by
    rw [own, hr] at e
    cases e
    exact differ
  refine ⟨_, carries_renameColumn name hr free, traced.set fun row e => ?_, _, hr, rfl⟩
  cases e
  exact ⟨own, (traced _ _ hr).constraint⟩

end Catalog

/-! ## The whole diff -/

namespace TableDiff

/-- **What a diff makes of a table**, column by column. -/
structure Outcome (r : Release) (d : TableDiff) (c c' : Catalog) : Prop where
  name : c'.name = d.newName.getD d.name
  added : ∀ x ∈ d.added, ∃ new, c'.rows x.name = some new ∧ r.dialect.MakesAdded d.name x new
  removed : ∀ x ∈ d.removed, c'.rows x.name = none
  changed : ∀ x ∈ d.changed, ∃ k old new, r.dialect.reduce x = .ok k ∧
    c.rows x.oldName = some old ∧ c'.rows x.oldName = some new ∧
    r.dialect.MakesChanged d.name k old new
  renamed : ∀ x ∈ d.renamed, ∃ old, c.rows x.oldName = some old ∧
    c'.rows x.oldName = some { old with name := x.column.name }
  others : ∀ n, n ∉ d.added.map Column.name → n ∉ d.oldNames → c'.rows n = c.rows n
  /-- All default constraints were made while the table had its old name. -/
  constraints : ∀ n row e, c'.rows n = some row → row.default = some e →
    ∃ o, e.name = Sql.constraintName d.name o

namespace Suits

variable (h : d.Suits t)

include h

theorem notMem_added {n : String} (hn : n ∈ d.oldNames) : n ∉ d.added.map Column.name :=
  fun added => h.absent n (List.mem_append_left _ added) (h.present n hn)

/-- Each old name is spoken of once. -/
theorem old_disjoint (n : String) :
    ¬(n ∈ d.removed.map Column.name ∧ n ∈ d.changed.map Change.oldName) ∧
      ¬(n ∈ d.removed.map Column.name ∧ n ∈ d.renamed.map Rename.oldName) ∧
      ¬(n ∈ d.changed.map Change.oldName ∧ n ∈ d.renamed.map Rename.oldName) := by
  obtain ⟨left, -, last⟩ := List.nodup_append.1 h.old_nodup
  obtain ⟨-, -, first⟩ := List.nodup_append.1 left
  refine ⟨fun hn => first n hn.1 n hn.2 rfl, fun hn => ?_, fun hn => ?_⟩
  · exact last n (List.mem_append_left _ hn.1) n hn.2 rfl
  · exact last n (List.mem_append_right _ hn.1) n hn.2 rfl

/-- The row of a column that is there. -/
theorem exists_row (wellNamed : t.WellNamed) {n : String} (hn : n ∈ d.oldNames) :
    ∃ a default, t.catalog.rows n = some ⟨n, a, default⟩ ∧ t.hasDefault n = default.isSome ∧
      ∀ e, default = some e → e.name = Sql.constraintName d.name n := by
  rw [h.name]
  exact wellNamed.exists_row (h.present n hn)

theorem traced_catalog : t.catalog.Traced d.home (d.columnNames t) := by
  intro n row hn
  obtain ⟨there, rfl, -⟩ := Table.rows_catalogWith_eq_some_iff.1 hn
  have there : row.name ∈ t.columns := ExtTreeMap.mem_iff_isSome_getElem?.2 (by rw [there]; rfl)
  have own := h.home_of_mem_columns there
  exact ⟨own, fun e he => ⟨row.name, .inl there, own, Table.name_of_rows_catalog hn he⟩⟩

/-! ## Halfway -/

/-- **After the added and the removed columns.** These are there, those are gone, and nothing has
happened to the other columns. -/
theorem exists_replaced (wellNamed : t.WellNamed)
    (distinct : Set.InjOn Checksum.hash (d.columnNames t)) {additions : List Statement}
    (adds : List.Forall₂ (r.dialect.Adds d.name) d.added additions) :
    ∃ c, Catalog.Carries (additions ++ guardedDrops d ++ Dialect.removals d) t.catalog c ∧
      c.name = d.name ∧ c.Traced d.home (d.columnNames t) ∧
      (∀ n, n ∉ d.added.map Column.name → n ∉ d.removed.map Column.name →
        c.rows n = t.catalog.rows n) ∧
      (∀ x ∈ d.added, ∃ new, c.rows x.name = some new ∧ r.dialect.MakesAdded d.name x new) ∧
      ∀ x ∈ d.removed, c.rows x.name = none := by
  have absent (x) (hx : x ∈ d.added) : t.catalog.rows x.name = none := by
    have hx := h.absent x.name (List.mem_append_left _ (List.mem_map_of_mem hx))
    simp [Table.catalog, Table.catalogWith, ExtTreeMap.getElem?_eq_none hx]
  obtain ⟨c₁, carried₁, name₁, traced₁, others₁, added⟩ :=
    Catalog.carries_additions h distinct h.name.symm h.traced_catalog adds absent
  obtain ⟨c₂, carried₂, name₂, traced₂, others₂, bared⟩ :=
    Catalog.carries_guardedDrops h name₁ traced₁ fun x hx => by
      have old := mem_oldNames_of_removed hx
      rw [others₁ _ (h.notMem_added old), h.removed x hx]
      exact h.exists_row wellNamed old
  obtain ⟨c₃, carried₃, name₃, traced₃, others₃, removed⟩ :=
    Catalog.carries_removals h name₂ traced₂ bared
  refine ⟨c₃, (carried₁.append carried₂).append carried₃, name₃, traced₃, fun n ha hr => ?_,
    fun x hx => ?_, removed⟩
  · rw [others₃ _ hr, others₂ _ hr, others₁ _ ha]
  · have away : x.name ∉ d.removed.map Column.name := fun hr =>
      h.notMem_added (List.mem_append_left _ (List.mem_append_left _ hr)) (List.mem_map_of_mem hx)
    rw [others₃ _ away, others₂ _ away]
    exact added x hx

/-- **After the changed and the renamed columns**, if nothing has happened to these before. Each
changed column is changed by its change or by one that stands for it. -/
theorem exists_altered {Becomes : Change → Change → Prop}
    (stands : ∀ x k, Becomes x k → k.StandsFor x) (wellNamed : t.WellNamed)
    (distinct : Set.InjOn Checksum.hash (d.columnNames t)) (name : c.name = d.name)
    (traced : c.Traced d.home (d.columnNames t))
    (before : ∀ n ∈ d.oldNames, n ∉ d.removed.map Column.name → c.rows n = t.catalog.rows n)
    {changes : List (List Statement)}
    (emits : List.Forall₂ (fun x part => ∃ k, Becomes x k ∧
      r.dialect.changeStatements d.name k = .ok part) d.changed changes) :
    ∃ c', Catalog.Carries (changes.flatten ++ Dialect.columnRenames d) c c' ∧ c'.name = d.name ∧
      c'.Traced d.home (d.columnNames t) ∧
      (∀ n, n ∉ d.changed.map Change.oldName → n ∉ d.renamed.map Rename.oldName →
        c'.rows n = c.rows n) ∧
      (∀ x ∈ d.changed, ∃ k old new, Becomes x k ∧
        t.catalog.rows x.oldName = some old ∧ c'.rows x.oldName = some new ∧
        r.dialect.MakesChanged d.name k old new) ∧
      ∀ x ∈ d.renamed, ∃ old, t.catalog.rows x.oldName = some old ∧
        c'.rows x.oldName = some { old with name := x.column.name } := by
  have disjoint := h.old_disjoint
  have unchanged {x : Change} (hx : x ∈ d.changed) : c.rows x.oldName = t.catalog.rows x.oldName :=
    before _ (mem_oldNames_of_changed hx) fun hn =>
      (disjoint _).1 ⟨hn, List.mem_map_of_mem hx⟩
  obtain ⟨c₁, carried₁, name₁, traced₁, others₁, changed⟩ :=
    Catalog.carries_changes h distinct name traced stands emits fun x hx => by
      rw [unchanged hx]
      obtain ⟨a, default, row, constrained, named⟩ :=
        h.exists_row wellNamed (mem_oldNames_of_changed hx)
      exact ⟨_, row, rfl, (h.of_mem_changed hx).2.2.2.1.trans constrained, named⟩
  have unrenamed {x : Rename} (hx : x ∈ d.renamed) :
      c₁.rows x.oldName = t.catalog.rows x.oldName := by
    have hn := List.mem_map_of_mem (f := Rename.oldName) hx
    rw [others₁ _ fun hm => (disjoint _).2.2 ⟨hm, hn⟩]
    exact before _ (mem_oldNames_of_renamed hx) fun hm => (disjoint _).2.1 ⟨hm, hn⟩
  obtain ⟨c₂, carried₂, name₂, traced₂, others₂, renamed⟩ :=
    Catalog.carries_columnRenames h name₁ traced₁ fun x hx => by
      rw [unrenamed hx]
      obtain ⟨a, default, row, -, -⟩ := h.exists_row wellNamed (mem_oldNames_of_renamed hx)
      exact ⟨a, default, row⟩
  refine ⟨c₂, carried₁.append carried₂, name₂, traced₂, fun n hc hr => ?_, fun x hx => ?_,
    fun x hx => ?_⟩
  · rw [others₂ _ hr, others₁ _ hc]
  · obtain ⟨k, old, new, becomes, found, row, made⟩ := changed x hx
    rw [unchanged hx] at found
    rw [← others₂ _ fun hm => (disjoint _).2.2 ⟨List.mem_map_of_mem hx, hm⟩] at row
    exact ⟨k, old, new, becomes, found, row, made⟩
  · obtain ⟨old, found, row⟩ := renamed x hx
    rw [unrenamed hx] at found
    exact ⟨old, found, row⟩

end Suits

/-- The table gets its new name at the end. -/
theorem carries_tableRename (name : c.name = d.name) :
    Catalog.Carries (Dialect.tableRename d) c { c with name := d.newName.getD d.name } := by
  unfold Dialect.tableRename
  rw [← name]
  cases d.newName with
  | none => exact Catalog.carries_nil c
  | some newName => exact Catalog.carries_renameTable c newName

/-- **The statements of a diff are executed, and this is what they make of the table.** The diff
suits the table, whose default constraints are named after their columns, and no two of the column
names involved share a checksum. -/
theorem Suits.exists_outcome (h : d.Suits t) (wellNamed : t.WellNamed)
    (distinct : Set.InjOn Checksum.hash (d.columnNames t))
    (compiled : (Platform.ofRelease r).compile d = .ok ss) :
    ∃ u c', t.execAll ss = some u ∧ c'.Lists u ∧ d.Outcome r t.catalog c' := by
  obtain ⟨additions, changes, adds, emits, rfl⟩ := Platform.compile_eq_ok_iff.1 compiled
  obtain ⟨c₁, replaced, name₁, traced₁, others₁, added, removed⟩ :=
    h.exists_replaced wellNamed distinct adds
  obtain ⟨c₂, altered, name₂, traced₂, others₂, changed, renamed⟩ :=
    h.exists_altered (fun _ _ => Change.standsFor_of_reduce) wellNamed distinct name₁ traced₁
      (fun n old => others₁ n (h.notMem_added old)) emits
  have carried := (replaced.append altered).append (carries_tableRename name₂)
  obtain ⟨u, executed, lists⟩ := carried t wellNamed.lists_catalog
  refine ⟨u, _, ?_, lists, rfl, fun x hx => ?_, fun x hx => ?_, changed, renamed,
    fun n hn old => ?_, fun n row e hr he => ?_⟩
  · simpa only [List.append_assoc] using executed
  · have away : x.name ∉ d.oldNames := fun old => h.notMem_added old (List.mem_map_of_mem hx)
    simp only [oldNames, List.mem_append, not_or] at away
    obtain ⟨new, row, made⟩ := added x hx
    exact ⟨new, (others₂ _ away.1.2 away.2).trans row, made⟩
  · have hn := List.mem_map_of_mem (f := Column.name) hx
    have disjoint := h.old_disjoint x.name
    exact (others₂ _ (fun hm => disjoint.1 ⟨hn, hm⟩) fun hm => disjoint.2.1 ⟨hn, hm⟩).trans
      (removed x hx)
  · simp only [oldNames, List.mem_append, not_or] at old
    exact (others₂ _ old.1.2 old.2).trans (others₁ n hn old.1.1)
  · obtain ⟨o, -, -, named⟩ := (traced₂ n row hr).constraint e he
    exact ⟨o, by rw [named, name₂]⟩

end TableDiff

end TsqlAlter
