import TsqlAlter.Proofs.Server.Realization

/-!
# Runs of diffs

Diffs of one table, compiled one after the other and executed in that order. A diff fits columns if
it adds columns that are not there, removes columns that are and changes columns from what they are,
under the names they have, each column once at most. If a table realizes columns that a run of diffs
fits, all its statements are executed, and the table then realizes the columns after the run: the
default constraints that a diff drops are those that an earlier one, or the table, has by that name.

`applyTo` and `applyAll` say which columns there are after diffs, in logical terms. `Fits` is what
is asked of one diff, `Follow` what is asked of a run.

Results:
* `getElem?_applyTo_of_added`, `getElem?_applyTo_of_removed`, `getElem?_applyTo_of_changed`,
  `getElem?_applyTo_of_notMem`: the columns after a diff, one by one.
* `exists_applyTo`: a single diff.
* `exists_applyAll`: a run of any length.

Left out: diffs that rename a column or the table, and two columns with one checksum.
-/

namespace TsqlAlter

open Std (ExtTreeMap)

variable {r : Release} {d : TableDiff} {cols : Columns} {t : Table} {table : String}
  {ss : List Statement}

namespace TableDiff

/-! ## Diffs in logical terms -/

/-- The columns after a diff that renames none. -/
def applyTo (d : TableDiff) (cols : Columns) : Columns :=
  let added := cols.insertMany (d.added.map fun x => (x.name, x))
  let removed := d.removed.foldl (fun cols x => cols.erase x.name) added
  removed.insertMany (d.changed.map fun x => (x.after.name, x.after))

/-- The columns after diffs, one after the other. -/
def applyAll (ds : List TableDiff) (cols : Columns) : Columns :=
  ds.foldl (fun cols d => d.applyTo cols) cols

/-- The names of the columns the diff speaks of. -/
def mentioned (d : TableDiff) : List String :=
  d.added.map Column.name ++ (d.removed.map Column.name ++ d.changed.map Change.oldName)

/-- **The diff fits the columns of a table.** It renames nothing and mentions each column once. -/
structure Fits (d : TableDiff) (table : String) (cols : Columns) : Prop where
  name : d.name = table
  newName : d.newName = none
  renamed : d.renamed = []
  nodup : d.mentioned.Nodup
  added : ∀ x ∈ d.added, x.name ∉ cols
  removed : ∀ x ∈ d.removed, cols[x.name]? = some x
  changed : ∀ x ∈ d.changed, ∃ before after, x = .between before after ∧
    cols[before.name]? = some before ∧ after.name = before.name ∧
    before.autoincrement = false ∧ after.autoincrement = false

/-- Each diff fits the columns that the ones before it leave. -/
def Follow (table : String) : List TableDiff → Columns → Prop
  | [], _ => True
  | d :: more, cols => d.Fits table cols ∧ Follow table more (d.applyTo cols)

theorem getElem?_foldl_erase (xs : List Column) (cols : Columns) (n : String) :
    (xs.foldl (fun cols x => cols.erase x.name) cols)[n]? =
      if n ∈ xs.map Column.name then none else cols[n]? := by
  induction xs generalizing cols with
  | nil => simp
  | cons x more ih =>
    rw [List.foldl_cons, ih, ExtTreeMap.getElem?_erase]
    grind

theorem getElem?_insertMany {α : Type} (key : α → String) (val : α → Column) {xs : List α}
    (nodup : (xs.map key).Nodup) (cols : Columns) {x : α} (hx : x ∈ xs) :
    (cols.insertMany (xs.map fun x => (key x, val x)))[key x]? = some (val x) := by
  refine ExtTreeMap.getElem?_insertMany_list_of_mem (k := key x) (by simp) ?_
    (List.mem_map_of_mem (f := fun x => (key x, val x)) hx)
  rw [List.pairwise_map]
  rw [List.Nodup, List.pairwise_map] at nodup
  exact nodup.imp fun h => by simpa using h

theorem getElem?_insertMany_of_notMem {α : Type} (key : α → String) (val : α → Column) {xs : List α}
    (cols : Columns) {n : String} (hn : n ∉ xs.map key) :
    (cols.insertMany (xs.map fun x => (key x, val x)))[n]? = cols[n]? := by
  refine ExtTreeMap.getElem?_insertMany_list_of_contains_eq_false ?_
  rw [List.map_map]
  simpa using hn

namespace Fits

variable (h : d.Fits table cols)

include h

/-- What a change changes. -/
theorem of_mem_changed {x : Change} (hx : x ∈ d.changed) :
    x.after.name = x.oldName ∧ cols[x.oldName]? = some x.before ∧ x = .between x.before x.after ∧
      x.before.autoincrement = false ∧ x.after.autoincrement = false := by
  obtain ⟨before, after, rfl, there, name, plain⟩ := h.changed x hx
  exact ⟨name, there, rfl, plain⟩

theorem names_changed : d.changed.map (·.after.name) = d.changed.map Change.oldName :=
  List.map_congr_left fun _ hx => (h.of_mem_changed hx).1

theorem moves_eq_nil : d.moves = [] := by
  have stays : d.changed.filter Change.renames = [] := by
    rw [List.filter_eq_nil_iff]
    intro x hx
    simp [Change.renames, (h.of_mem_changed hx).1]
  unfold moves
  rw [stays, h.renamed]
  rfl

theorem oldNames_eq : d.oldNames = d.removed.map Column.name ++ d.changed.map Change.oldName := by
  unfold oldNames
  rw [h.renamed, List.map_nil, List.append_nil]

theorem newNames_eq : d.newNames = d.added.map Column.name := by
  unfold newNames
  rw [h.moves_eq_nil, List.map_nil, List.append_nil]

/-- A diff that fits the columns of a table suits the table. -/
theorem suits (realized : t.Realizes r cols) (ht : t.name = table) : d.Suits t := by
  have there {n : String} {x : Column} (hx : cols[n]? = some x) : n ∈ t.columns := by
    rw [← realized.mem_iff, ExtTreeMap.mem_iff_isSome_getElem?, hx]
    rfl
  obtain ⟨added, old, -⟩ := List.nodup_append.1 h.nodup
  refine ⟨h.name.trans ht.symm, ?_, ?_, fun n hn => ?_, fun n hn => ?_, fun x hx => ?_,
    fun x hx => ?_⟩
  · rw [h.oldNames_eq]
    exact old
  · rw [h.newNames_eq]
    exact added
  · rw [h.oldNames_eq, List.mem_append] at hn
    rcases hn with hn | hn
    · obtain ⟨x, hx, rfl⟩ := List.mem_map.1 hn
      exact there (h.removed x hx)
    · obtain ⟨x, hx, rfl⟩ := List.mem_map.1 hn
      exact there (h.of_mem_changed hx).2.1
  · rw [h.newNames_eq] at hn
    obtain ⟨x, hx, rfl⟩ := List.mem_map.1 hn
    rw [← realized.mem_iff]
    exact h.added x hx
  · exact (realized.defaults _ _ (h.removed x hx)).symm
  · obtain ⟨before, after, rfl, hb, -⟩ := h.changed x hx
    exact ⟨before, after, rfl, (realized.defaults _ _ hb).symm⟩

/-! ## The columns after a diff -/

theorem getElem?_applyTo_of_changed {x : Change} (hx : x ∈ d.changed) :
    (d.applyTo cols)[x.oldName]? = some x.after := by
  obtain ⟨-, old, -⟩ := List.nodup_append.1 h.nodup
  obtain ⟨-, changed, -⟩ := List.nodup_append.1 old
  rw [← h.names_changed] at changed
  rw [← (h.of_mem_changed hx).1]
  exact getElem?_insertMany (fun x : Change => x.after.name) Change.after changed _ hx

theorem getElem?_applyTo_of_notMem_changed {n : String} (hn : n ∉ d.changed.map Change.oldName) :
    (d.applyTo cols)[n]? = if n ∈ d.removed.map Column.name then none
      else (cols.insertMany (d.added.map fun x => (x.name, x)))[n]? := by
  rw [← h.names_changed] at hn
  rw [← getElem?_foldl_erase]
  exact getElem?_insertMany_of_notMem (fun x : Change => x.after.name) Change.after _ hn

theorem getElem?_applyTo_of_removed {x : Column} (hx : x ∈ d.removed) :
    (d.applyTo cols)[x.name]? = none := by
  obtain ⟨-, old, -⟩ := List.nodup_append.1 h.nodup
  obtain ⟨-, -, apart⟩ := List.nodup_append.1 old
  have hn := List.mem_map_of_mem (f := Column.name) hx
  rw [h.getElem?_applyTo_of_notMem_changed fun hc => apart _ hn _ hc rfl, if_pos hn]

theorem getElem?_applyTo_of_added {x : Column} (hx : x ∈ d.added) :
    (d.applyTo cols)[x.name]? = some x := by
  obtain ⟨added, -, apart⟩ := List.nodup_append.1 h.nodup
  have hn := List.mem_map_of_mem (f := Column.name) hx
  rw [h.getElem?_applyTo_of_notMem_changed fun hc =>
      apart _ hn _ (List.mem_append_right _ hc) rfl,
    if_neg fun hr => apart _ hn _ (List.mem_append_left _ hr) rfl]
  exact getElem?_insertMany Column.name id added cols hx

theorem getElem?_applyTo_of_notMem {n : String} (hn : n ∉ d.mentioned) :
    (d.applyTo cols)[n]? = cols[n]? := by
  simp only [mentioned, List.mem_append, not_or] at hn
  rw [h.getElem?_applyTo_of_notMem_changed hn.2.2, if_neg hn.2.1]
  exact getElem?_insertMany_of_notMem Column.name id cols hn.1

/-- A column after a diff was there before or is added. -/
theorem mem_of_mem_applyTo {n : String} (hn : n ∈ d.applyTo cols) :
    n ∈ cols ∨ ∃ x ∈ d.added, x.name = n := by
  rw [ExtTreeMap.mem_iff_isSome_getElem?] at hn
  by_cases mentioned : n ∈ d.mentioned
  · rcases List.mem_append.1 mentioned with hm | hm
    · obtain ⟨x, hx, rfl⟩ := List.mem_map.1 hm
      exact .inr ⟨x, hx, rfl⟩
    · rcases List.mem_append.1 hm with hm | hm
      · obtain ⟨x, hx, rfl⟩ := List.mem_map.1 hm
        rw [h.getElem?_applyTo_of_removed hx] at hn
        cases hn
      · obtain ⟨x, hx, rfl⟩ := List.mem_map.1 hm
        left
        rw [ExtTreeMap.mem_iff_isSome_getElem?, (h.of_mem_changed hx).2.1]
        rfl
  · rw [h.getElem?_applyTo_of_notMem mentioned] at hn
    exact .inl (ExtTreeMap.mem_iff_isSome_getElem?.2 hn)

end Fits

end TableDiff

/-! ## Executing diffs -/

/-- The names of columns, those that are there and those that diffs add. -/
def Columns.names (cols : Columns) (ds : List TableDiff) : Set String :=
  {n | n ∈ cols ∨ ∃ d ∈ ds, ∃ x ∈ d.added, x.name = n}

/-- The names a diff speaks of are those that are there and those it adds. -/
theorem TableDiff.Fits.columnNames_subset (fits : d.Fits table cols)
    (realized : t.Realizes r cols) :
    d.columnNames t ⊆ Columns.names cols [d] := by
  rintro n (hn | hn)
  · exact .inl ((realized.mem_iff n).2 hn)
  · rw [fits.newNames_eq] at hn
    obtain ⟨x, hx, rfl⟩ := List.mem_map.1 hn
    exact .inr ⟨d, List.mem_singleton_self d, x, hx, rfl⟩

namespace Table

/-- A table realizes the columns after a diff if its added and changed rows are made as the diff
says, the removed ones are gone and the others are what they were. -/
theorem Realizes.applyTo_of_rows (realized : t.Realizes r cols) (fits : d.Fits t.name cols)
    {u : Table} {c : Catalog} (lists : c.Lists u) (name : u.name = t.name)
    (added : ∀ x ∈ d.added, ∃ new, c.rows x.name = some new ∧ r.dialect.MakesAdded d.name x new)
    (removed : ∀ x ∈ d.removed, c.rows x.name = none)
    (changed : ∀ x ∈ d.changed, ∃ k old new, r.Leads k x.before x.after ∧
      t.catalog.rows x.oldName = some old ∧ c.rows x.oldName = some new ∧
      r.dialect.MakesChanged d.name k old new)
    (others : ∀ n, n ∉ d.mentioned → c.rows n = t.catalog.rows n) :
    u.Realizes r (d.applyTo cols) := by
  refine realizes_of_rows lists fun n => ?_
  rw [name]
  have rows := realized.rows
  by_cases mentioned : n ∈ d.mentioned
  · rcases List.mem_append.1 mentioned with hn | hn
    · obtain ⟨x, hx, rfl⟩ := List.mem_map.1 hn
      obtain ⟨new, row, made⟩ := added x hx
      rw [fits.getElem?_applyTo_of_added hx, row]
      exact .some ⟨rfl, fits.name ▸ made.realizes⟩
    · rcases List.mem_append.1 hn with hn | hn
      · obtain ⟨x, hx, rfl⟩ := List.mem_map.1 hn
        rw [fits.getElem?_applyTo_of_removed hx, removed x hx]
        exact .none
      · obtain ⟨x, hx, rfl⟩ := List.mem_map.1 hn
        obtain ⟨k, old, new, leads, found, row, made⟩ := changed x hx
        obtain ⟨same, there, -, plain⟩ := fits.of_mem_changed hx
        rw [fits.getElem?_applyTo_of_changed hx, row]
        have before := rows x.oldName
        rw [there, found, Option.rel_some_some] at before
        rw [fits.name] at made
        exact .some ⟨same, made.realizes leads (same.trans before.1.symm) plain before.2⟩
  · rw [fits.getElem?_applyTo_of_notMem mentioned, others n mentioned]
    exact rows n

/-- **A single diff.** -/
theorem Realizes.exists_applyTo (realized : t.Realizes r cols) (fits : d.Fits t.name cols)
    (distinct : Set.InjOn Checksum.hash (Columns.names cols [d]))
    (compiled : (Platform.ofRelease r).compile d = .ok ss) :
    ∃ u, t.execAll ss = some u ∧ u.name = t.name ∧ u.Realizes r (d.applyTo cols) := by
  have suits := fits.suits realized rfl
  obtain ⟨u, c, executed, lists, outcome⟩ :=
    suits.exists_outcome realized.wellNamed (distinct.mono (fits.columnNames_subset realized))
      compiled
  have name : u.name = t.name := by
    rw [lists.name, outcome.name, fits.newName, Option.getD_none, fits.name]
  refine ⟨u, executed, name, realized.applyTo_of_rows fits lists name outcome.added outcome.removed
    (fun x hx => ?_) fun n mentioned => ?_⟩
  · obtain ⟨k, old, new, reduced, found, row, made⟩ := outcome.changed x hx
    rw [(fits.of_mem_changed hx).2.2.1] at reduced
    exact ⟨k, old, new, Release.leads_of_reduce reduced, found, row, made⟩
  · refine outcome.others n (fun added => mentioned (List.mem_append_left _ added)) ?_
    rw [fits.oldNames_eq]
    exact fun old => mentioned (List.mem_append_right _ old)

/-- **A run of diffs.** The table realizes columns; the diffs fit them, one after the other, and are
all compiled; no two columns involved share a checksum. Then all statements are executed, and the
table realizes the columns after the run. A default constraint so has the literal of its column's
default, or of the other zero (`hasLiteral_iff`). -/
theorem Realizes.exists_applyAll {r : Release} {t : Table} {cols : Columns} {ds : List TableDiff}
    {ss : List Statement} (realized : t.Realizes r cols) (follow : TableDiff.Follow t.name ds cols)
    (distinct : Set.InjOn Checksum.hash (Columns.names cols ds))
    (compiled : Dialect.forEach (Platform.ofRelease r).compile ds = .ok ss) :
    ∃ u, t.execAll ss = some u ∧ u.name = t.name ∧ u.Realizes r (TableDiff.applyAll ds cols) := by
  induction ds generalizing t cols ss with
  | nil =>
    cases compiled
    exact ⟨t, rfl, rfl, realized⟩
  | cons d more ih =>
    obtain ⟨fits, follow⟩ := follow
    obtain ⟨first, rest, hf, hr, rfl⟩ := Dialect.forEach_cons_eq_ok_iff.1 compiled
    have one : Columns.names cols [d] ⊆ Columns.names cols (d :: more) := by
      rintro n (hn | ⟨e, he, hn⟩)
      · exact .inl hn
      · exact .inr ⟨e, List.mem_cons.2 (.inl (List.mem_singleton.1 he)), hn⟩
    have later : Columns.names (d.applyTo cols) more ⊆ Columns.names cols (d :: more) := by
      rintro n (hn | ⟨e, he, hn⟩)
      · rcases fits.mem_of_mem_applyTo hn with hn | hn
        · exact .inl hn
        · exact .inr ⟨d, List.mem_cons_self, hn⟩
      · exact .inr ⟨e, List.mem_cons_of_mem _ he, hn⟩
    obtain ⟨u, executed, name, realized⟩ := realized.exists_applyTo fits (distinct.mono one) hf
    rw [← name] at follow
    obtain ⟨v, executed', name', realized⟩ := ih realized follow (distinct.mono later) hr
    refine ⟨v, ?_, name'.trans name, realized⟩
    rw [execAll_append, executed]
    exact executed'

/-- A table without columns realizes no columns. -/
theorem realizes_empty (r : Release) (name : String) : Realizes { name := name } r ∅ where
  columns n := by simp
  defaults n x hx := by simp at hx
  constraints k e he := by simp at he

/-- The columns of a table are added; then one is removed and the other redefined. -/
def history : List TableDiff := [
  { name := "orders"
    added := [
      { name := "status", type := .string, length := some 20, default := some (.string "new") },
      { name := "amount", type := .integer, nullable := false, default := some (.integer 0) }] },
  { name := "orders"
    removed := [
      { name := "status", type := .string, length := some 20, default := some (.string "new") }]
    changed := [.between
      { name := "amount", type := .integer, nullable := false, default := some (.integer 0) }
      { name := "amount", type := .bigint, nullable := false, default := some (.integer 0) }] }]

/-- The run of two diffs from a table without columns. -/
theorem Realizes.exists_applyAll_history :
    TableDiff.Follow "orders" history ∅ ∧ Set.InjOn Checksum.hash (Columns.names ∅ history) ∧
      ∃ ss u, Dialect.forEach (Platform.ofRelease .sql2008).compile history = .ok ss ∧
        execAll { name := "orders" } ss = some u ∧ u.name = "orders" ∧
        u.Realizes .sql2008 (TableDiff.applyAll history ∅) := by
  have follow : TableDiff.Follow "orders" history ∅ := by
    refine ⟨⟨rfl, rfl, rfl, by decide, by decide, by decide, by simp⟩,
      ⟨rfl, rfl, rfl, by decide, by simp, by decide +kernel, ?_⟩, trivial⟩
    simp only [List.mem_singleton, forall_eq]
    exact ⟨_, _, rfl, by decide +kernel⟩
  have two : Columns.names ∅ history ⊆ {"status", "amount"} := by
    rintro n (hn | ⟨d, hd, x, hx, rfl⟩)
    · simp at hn
    · simp only [history, List.mem_cons, List.not_mem_nil, or_false] at hd
      rcases hd with rfl | rfl
      · simp only [List.mem_cons, List.not_mem_nil, or_false] at hx
        rcases hx with rfl | rfl <;> simp
      · simp at hx
  have distinct : Set.InjOn Checksum.hash (Columns.names ∅ history) := by
    have apart : Checksum.hash "status" ≠ Checksum.hash "amount" := by decide +kernel
    exact (Set.injOn_pair.2 fun h => absurd h apart).mono two
  have succeeded :
      failure? (Dialect.forEach (Platform.ofRelease .sql2008).compile history) = none := by
    decide +kernel
  obtain ⟨ss, compiled⟩ := failure?_eq_none_iff.1 succeeded
  obtain ⟨u, executed, name, realized⟩ :=
    Realizes.exists_applyAll (realizes_empty .sql2008 "orders") follow distinct compiled
  exact ⟨follow, distinct, ss, u, compiled, executed, name, realized⟩

end Table

end TsqlAlter
