import TsqlAlter.Proofs.Server.Realization

/-!
# Names of default constraints after a diff

A default constraint is found again by its name, which is made from the names of its table and its
column. A rename changes these and leaves the constraint's name, and a diff that renames does not
name the constraint anew unless it happens to drop it and to add it again. After such a diff a later
one looks for the constraint under a name it does not have.

`KeepsNames` is the condition on a diff: which entries it has for the columns that have a default
constraint, and whether it renames the table.

Results:
* `Lists.wellNamed_iff`: constraints are well named exactly when those of the rows are.
* `origin`: where a default constraint comes from.
* `named_of_keepsNames`, `keepsNames_of_named`: both directions, row by row.
* `wellNamed_iff_keepsNames`: which diffs leave all default constraints well named.
* `not_wellNamed_renameCounted`: a renamed column that cannot be removed any more.

Left out: names that agree by accident, the checksums of two different names being the same.
-/

namespace TsqlAlter

open Std (ExtTreeMap)

variable {r : Release} {d : TableDiff} {t u : Table} {c : Catalog} {ss : List Statement}

/-- The default constraint of each row is named after the table and the column of the row. -/
def Catalog.Named (c : Catalog) : Prop :=
  ∀ i row e, c.rows i = some row → row.default = some e →
    e.name = Sql.constraintName c.name row.name

/-- Constraints are well named exactly when those of the rows are. -/
theorem Catalog.Lists.wellNamed_iff (h : c.Lists u) : u.WellNamed ↔ c.Named := by
  constructor
  · rintro named i ⟨n, a, default⟩ e hi he
    subst he
    rw [← h.name]
    exact (named e.name _ ((h.constraints e.name n e.literal).2 ⟨i, a, hi⟩)).2
  · rintro named k ⟨n, literal⟩ he
    obtain ⟨i, a, hi⟩ := (h.constraints k n literal).1 he
    refine ⟨h.mem_columns_iff.2 ⟨i, _, hi, rfl⟩, ?_⟩
    rw [h.name]
    exact named i _ _ hi rfl

namespace TableDiff

/-- **The diff leaves no default constraint under a stale name.** -/
structure KeepsNames (d : TableDiff) (r : Release) (t : Table) : Prop where
  /-- A change that renames a column takes its default constraint away first. -/
  changed : ∀ x ∈ d.changed, x.renames = true → t.hasDefault x.oldName = true →
    ∃ k, r.dialect.reduce x = .ok k ∧ k.dropsConstraint = true
  /-- A column that is only renamed has no default constraint. -/
  renamed : ∀ x ∈ d.renamed, t.hasDefault x.oldName = false
  /-- A table that is renamed is left without default constraints. -/
  table : d.newName.getD d.name ≠ d.name →
    (∀ x ∈ d.added, x.hasConstraint = false) ∧ (∀ x ∈ d.changed, x.after.hasConstraint = false) ∧
      ∀ n, t.hasDefault n = true →
        n ∈ d.removed.map Column.name ∨ n ∈ d.changed.map Change.oldName

namespace Outcome

variable (h : d.Outcome r t.catalog c) (suits : d.Suits t) (wellNamed : t.WellNamed)

include h suits wellNamed

/-- What becomes of a changed column. Its default constraint is made anew, if there was none or it
was dropped, or it is kept under its old name. -/
theorem exists_of_mem_changed {x : Change} (hx : x ∈ d.changed) :
    ∃ k new, r.dialect.reduce x = .ok k ∧ c.rows x.oldName = some new ∧
      new.name = x.after.name ∧ new.default.isSome = x.after.hasConstraint ∧
      (((k.dropsConstraint = true ∨ t.hasDefault x.oldName = false) ∧
          ∀ e, new.default = some e → e.name = Sql.constraintName d.name x.after.name) ∨
        (k.dropsConstraint = false ∧ new.default.isSome = t.hasDefault x.oldName ∧
          ∀ e, new.default = some e → e.name = Sql.constraintName d.name x.oldName)) := by
  obtain ⟨k, old, new, reduced, found, row, made⟩ := h.changed x hx
  obtain ⟨a, default, found', held, named⟩ :=
    suits.exists_row wellNamed (mem_oldNames_of_changed hx)
  cases found.symm.trans found'
  obtain ⟨before, after, rfl, constrained⟩ := suits.changed x hx
  have constrained : before.hasConstraint = default.isSome := constrained.trans held
  have leads := Release.leads_of_reduce reduced
  have name : new.name = after.name := by rw [made.name, leads.after]
  refine ⟨k, new, reduced, row, name, made.isSome_default leads constrained, ?_⟩
  rw [held]
  obtain ⟨gone, anew⟩ | ⟨kept, -, same⟩ := made.default_cases leads constrained
  · refine .inl ⟨gone.imp_right fun bare => ?_, fun e he => ?_⟩
    · rw [show default = none from bare]
      rfl
    · rw [he] at anew
      obtain ⟨value, -, hk, -⟩ := exists_of_rel_some_right anew
      exact hk
  · refine .inr ⟨kept, by rw [same], fun e he => ?_⟩
    exact named e (same.symm.trans he)

/-- **Where a default constraint comes from.** Its column was added, changed, renamed or left
alone. -/
theorem origin {n : String} {row : Row} {e : DefaultConstraint} (hn : c.rows n = some row)
    (he : row.default = some e) :
    (∃ x ∈ d.added, x.hasConstraint = true ∧ e.name = Sql.constraintName d.name row.name) ∨
    (∃ x ∈ d.changed, x.after.hasConstraint = true ∧ row.name = x.after.name ∧
      (e.name = Sql.constraintName d.name x.after.name ∨
        t.hasDefault x.oldName = true ∧ e.name = Sql.constraintName d.name x.oldName ∧
          ∀ k, r.dialect.reduce x = .ok k → k.dropsConstraint = false)) ∨
    (∃ x ∈ d.renamed, t.hasDefault x.oldName = true) ∨
    (n ∉ d.oldNames ∧ t.hasDefault n = true ∧ e.name = Sql.constraintName d.name row.name) := by
  by_cases added : n ∈ d.added.map Column.name
  · obtain ⟨x, hx, rfl⟩ := List.mem_map.1 added
    obtain ⟨new, row', made⟩ := h.added x hx
    cases hn.symm.trans row'
    have realized := made.realizes
    obtain ⟨value, hv, hk, -⟩ := exists_of_rel_some_right (he ▸ realized.default)
    refine .inl ⟨x, hx, ?_, by rw [hk, realized.name]⟩
    rw [Column.hasConstraint, hv]
    rfl
  by_cases old : n ∈ d.oldNames
  · right
    rcases List.mem_append.1 old with old' | hm
    · rcases List.mem_append.1 old' with hm | hm
      · obtain ⟨x, hx, rfl⟩ := List.mem_map.1 hm
        rw [h.removed x hx] at hn
        cases hn
      · obtain ⟨x, hx, rfl⟩ := List.mem_map.1 hm
        obtain ⟨k, new, reduced, row', name, constrained, cases⟩ :=
          h.exists_of_mem_changed suits wellNamed hx
        cases hn.symm.trans row'
        rw [he] at constrained
        refine .inl ⟨x, hx, constrained.symm, name, ?_⟩
        obtain ⟨-, anew⟩ | ⟨kept, held, stale⟩ := cases
        · exact .inl (anew e he)
        · rw [he] at held
          refine .inr ⟨held.symm, stale e he, fun k' hk' => ?_⟩
          cases reduced.symm.trans hk'
          exact kept
    · obtain ⟨x, hx, rfl⟩ := List.mem_map.1 hm
      obtain ⟨old, found, row'⟩ := h.renamed x hx
      obtain ⟨a, default, found', held, -⟩ := suits.exists_row wellNamed
        (mem_oldNames_of_renamed hx)
      cases found.symm.trans found'
      cases hn.symm.trans row'
      have he : default = some e := he
      exact .inr (.inl ⟨x, hx, by rw [held, he]; rfl⟩)
  · rw [h.others n added old] at hn
    have held := wellNamed.lists_catalog.hasDefault_eq hn
    have named := Table.name_of_rows_catalog hn he
    obtain ⟨-, rfl, -⟩ := Table.rows_catalogWith_eq_some_iff.1 hn
    refine .inr (.inr (.inr ⟨old, ?_, by rw [named, suits.name]⟩))
    rw [held, he]
    rfl

/-- Where the diff leaves no stale name, all default constraints are well named. -/
theorem named_of_keepsNames (keeps : d.KeepsNames r t) : c.Named := by
  intro n row e hn he
  have origin := h.origin suits wellNamed hn he
  have name := h.name
  by_cases same : d.newName.getD d.name = d.name
  · rw [name, same]
    obtain ⟨x, hx, -, named⟩ | ⟨x, hx, -, row', anew | ⟨held, stale, kept⟩⟩ | ⟨x, hx, held⟩ |
      ⟨-, -, named⟩ := origin
    · exact named
    · rw [anew, row']
    · by_cases renames : x.renames = true
      · obtain ⟨k, reduced, drops⟩ := keeps.changed x hx renames held
        rw [kept k reduced] at drops
        cases drops
      · rw [stale, row', (suits.of_mem_changed hx).2.2.2.2 (by simpa using renames)]
    · rw [keeps.renamed x hx] at held
      cases held
    · exact named
  · -- a table under a new name has no default constraint at all
    exfalso
    obtain ⟨added, changed, others⟩ := keeps.table same
    obtain ⟨x, hx, held, -⟩ | ⟨x, hx, held, -⟩ | ⟨x, hx, held⟩ | ⟨old, held, -⟩ := origin
    · rw [added x hx] at held
      cases held
    · rw [changed x hx] at held
      cases held
    · rw [keeps.renamed x hx] at held
      cases held
    · refine old ?_
      rcases others n held with hn | hn
      · exact List.mem_append_left _ (List.mem_append_left _ hn)
      · exact List.mem_append_left _ (List.mem_append_right _ hn)

/-! ## Stale names are seen -/

section Named

variable (named : c.Named)

include named

/-- A change that renames a column has dropped its default constraint, which else had kept the name
made for the old column. -/
theorem exists_dropsConstraint (distinct : Set.InjOn Checksum.hash (d.columnNames t)) {x : Change}
    (hx : x ∈ d.changed) (renames : x.renames = true) (held : t.hasDefault x.oldName = true) :
    ∃ k, r.dialect.reduce x = .ok k ∧ k.dropsConstraint = true := by
  obtain ⟨k, new, reduced, row, name, -, ⟨gone, -⟩ | ⟨-, kept, stale⟩⟩ :=
    h.exists_of_mem_changed suits wellNamed hx
  · exact ⟨k, reduced, gone.resolve_right (by rw [held]; decide)⟩
  · exfalso
    rw [held, Option.isSome_iff_exists] at kept
    obtain ⟨e, he⟩ := kept
    have hash := Sql.hash_eq_of_constraintName ((stale e he).symm.trans (named _ new e row he))
    have there : x.oldName ∈ d.columnNames t :=
      .inl (suits.present _ (mem_oldNames_of_changed hx))
    rw [name] at hash
    have same := distinct there (suits.of_mem_changed hx).2.1 hash.2
    simp [Change.renames, same] at renames

/-- A column that is only renamed had no default constraint. -/
theorem hasDefault_of_mem_renamed (distinct : Set.InjOn Checksum.hash (d.columnNames t))
    {x : Rename} (hx : x ∈ d.renamed) : t.hasDefault x.oldName = false := by
  obtain ⟨old, found, row⟩ := h.renamed x hx
  obtain ⟨a, default, found', held, stale⟩ :=
    suits.exists_row wellNamed (mem_oldNames_of_renamed hx)
  cases found.symm.trans found'
  rw [held, Option.isSome_eq_false_iff, Option.isNone_iff_eq_none,
    Option.eq_none_iff_forall_ne_some]
  intro e he
  have hash := Sql.hash_eq_of_constraintName ((stale e he).symm.trans (named _ _ e row he))
  have there := suits.present _ (mem_oldNames_of_renamed hx)
  have given : x.column.name ∈ d.newNames := List.mem_append_right _
    (List.mem_map_of_mem (f := Prod.fst) (List.mem_append_right _ (List.mem_map_of_mem hx)))
  have same := distinct (.inl there) (.inr given) hash.2
  rw [same] at there
  exact suits.absent _ given there

omit suits wellNamed in
/-- A table under a new name is left without default constraints: all have names made for the old
one. -/
theorem default_eq_none
    (tables : Set.InjOn Checksum.hash {n | n = d.name ∨ d.newName = some n})
    (differ : d.newName.getD d.name ≠ d.name) (n : String) (row : Row)
    (hn : c.rows n = some row) : row.default = none := by
  rw [Option.eq_none_iff_forall_ne_some]
  intro e he
  obtain ⟨o, ho⟩ := h.constraints n row e hn he
  have hash := Sql.hash_eq_of_constraintName (ho.symm.trans (named n row e hn he))
  rw [h.name] at hash
  refine differ (tables ?_ (.inl rfl) hash.1.symm)
  cases hnew : d.newName with
  | none => exact .inl rfl
  | some newName => exact .inr rfl

end Named

/-- Where no default constraint is left, each one there was belonged to a column that is removed or
changed: the others keep what they have. -/
theorem mem_removed_or_changed (bare : ∀ n row, c.rows n = some row → row.default = none)
    {n : String} (held : t.hasDefault n = true) :
    n ∈ d.removed.map Column.name ∨ n ∈ d.changed.map Change.oldName := by
  have there := wellNamed.mem_columns held
  obtain ⟨a, default, found, constrained, -⟩ := wellNamed.exists_row there
  rw [held] at constrained
  have kept : default ≠ none := by
    rintro rfl
    cases constrained
  by_contra left
  rw [not_or] at left
  by_cases renamed : n ∈ d.renamed.map Rename.oldName
  · obtain ⟨x, hx, rfl⟩ := List.mem_map.1 renamed
    obtain ⟨old, found', row⟩ := h.renamed x hx
    cases found.symm.trans found'
    exact kept (bare _ _ row)
  · have added : n ∉ d.added.map Column.name := fun added =>
      suits.absent n (List.mem_append_left _ added) there
    have old : n ∉ d.oldNames := by
      simp only [oldNames, List.mem_append, not_or]
      exact ⟨left, renamed⟩
    rw [← h.others n added old] at found
    exact kept (bare _ _ found)

/-- Where all default constraints are well named, the diff leaves no stale name. -/
theorem keepsNames_of_named (named : c.Named)
    (distinct : Set.InjOn Checksum.hash (d.columnNames t))
    (tables : Set.InjOn Checksum.hash {n | n = d.name ∨ d.newName = some n}) :
    d.KeepsNames r t where
  changed x hx := h.exists_dropsConstraint suits wellNamed named distinct hx
  renamed x hx := h.hasDefault_of_mem_renamed suits wellNamed named distinct hx
  table differ := by
    have bare := h.default_eq_none named tables differ
    refine ⟨fun x hx => ?_, fun x hx => ?_, fun n held => ?_⟩
    · obtain ⟨new, row, made⟩ := h.added x hx
      have constrained := isSome_eq_of_rel made.realizes.default
      rw [bare _ _ row] at constrained
      exact constrained
    · obtain ⟨k, new, -, row, -, constrained, -⟩ := h.exists_of_mem_changed suits wellNamed hx
      rw [← constrained, bare _ _ row]
      rfl
    · exact h.mem_removed_or_changed suits wellNamed bare held

end Outcome

/-- **Default constraints are well named after a diff exactly if it leaves no stale name.** The diff
suits a table whose default constraints are well named, and no two of the names involved share a
checksum. All statements are executed; the names are right again unless a column takes its default
constraint along to a new name, or the table takes one. -/
theorem Suits.wellNamed_iff_keepsNames (suits : d.Suits t) (wellNamed : t.WellNamed)
    (distinct : Set.InjOn Checksum.hash (d.columnNames t))
    (tables : Set.InjOn Checksum.hash {n | n = d.name ∨ d.newName = some n})
    (compiled : (Platform.ofRelease r).compile d = .ok ss) :
    ∃ u, t.execAll ss = some u ∧ u.name = d.newName.getD d.name ∧
      (u.WellNamed ↔ d.KeepsNames r t) := by
  obtain ⟨u, c, executed, lists, outcome⟩ := suits.exists_outcome wellNamed distinct compiled
  refine ⟨u, executed, lists.name.trans outcome.name, ?_⟩
  rw [lists.wellNamed_iff]
  constructor
  · intro named
    exact outcome.keepsNames_of_named suits wellNamed named distinct tables
  · exact outcome.named_of_keepsNames suits wellNamed

/-! ## A stale name -/

/-- A table with one column, which has a default constraint. -/
def counted : Table where
  name := "T"
  columns := (∅ : ExtTreeMap String Attributes).insert "A" ⟨"INT", false, none, true⟩
  constraints :=
    (∅ : ExtTreeMap String ColumnDefault).insert (Sql.constraintName "T" "A") ⟨"A", "0"⟩

theorem wellNamed_counted : counted.WellNamed := by
  intro k e he
  simp only [counted, ExtTreeMap.getElem?_insert] at he
  split at he
  · next hk =>
    cases he
    rw [← Std.compare_eq_iff_eq.1 hk]
    exact ⟨by decide +kernel, rfl⟩
  · simp at he

theorem injOn_columnNames_counted (new : d.newNames = ["B"]) :
    Set.InjOn Checksum.hash (d.columnNames counted) := by
  have two : d.columnNames counted ⊆ {"A", "B"} := by
    rintro n (hn | hn)
    · left
      have hn : compare "A" n = .eq := by simpa [counted] using hn
      exact (Std.compare_eq_iff_eq.1 hn).symm
    · right
      rw [new] at hn
      exact List.mem_singleton.1 hn
  have apart : Checksum.hash "A" ≠ Checksum.hash "B" := by decide +kernel
  exact (Set.injOn_pair.2 fun h => absurd h apart).mono two

/-- The column gets another name and another default. -/
def recount : TableDiff where
  name := "T"
  changed := [.between { name := "A", type := .integer, default := some (.integer 0) }
    { name := "B", type := .integer, default := some (.integer 1) }]

/-- With the default, the name of its constraint changes. -/
theorem Suits.wellNamed_iff_keepsNames_recount : ∃ ss u,
    (Platform.ofRelease .sql2008).compile recount = .ok ss ∧ counted.execAll ss = some u ∧
      (u.WellNamed ↔ recount.KeepsNames .sql2008 counted) ∧
      recount.KeepsNames .sql2008 counted := by
  have suits : recount.Suits counted := by
    refine ⟨rfl, by decide, by decide, by decide +kernel, by decide +kernel, by simp [recount], ?_⟩
    simp only [recount, List.mem_singleton, forall_eq]
    exact ⟨_, _, rfl, by decide +kernel⟩
  have tables : Set.InjOn Checksum.hash {n | n = recount.name ∨ recount.newName = some n} :=
    (Set.injOn_singleton _ "T").mono fun n hn => by simpa [recount] using hn
  have succeeded : failure? ((Platform.ofRelease .sql2008).compile recount) = none := by
    decide +kernel
  obtain ⟨ss, compiled⟩ := failure?_eq_none_iff.1 succeeded
  obtain ⟨u, executed, -, names⟩ := suits.wellNamed_iff_keepsNames wellNamed_counted
    (injOn_columnNames_counted (by decide)) tables compiled
  refine ⟨ss, u, compiled, executed, names, ?_, by simp [recount], fun differ => absurd rfl differ⟩
  simp only [recount, List.mem_singleton, forall_eq]
  exact fun _ _ => ⟨_, rfl, by decide⟩

/-- The column only gets another name. -/
def renameCounted : TableDiff where
  name := "T"
  renamed := [⟨"A", { name := "B", type := .integer, default := some (.integer 0) }⟩]

/-- The column is removed under its new name. -/
def removeRenamed : TableDiff where
  name := "T"
  removed := [{ name := "B", type := .integer, default := some (.integer 0) }]

/-- **A stale name.** The column takes its default constraint along to its new name, and the
statements that would remove it do not find the constraint and are refused. -/
theorem not_wellNamed_renameCounted : counted.WellNamed ∧ renameCounted.Suits counted ∧
    Set.InjOn Checksum.hash (renameCounted.columnNames counted) ∧ ∃ ss u,
      (Platform.ofRelease .sql2008).compile renameCounted = .ok ss ∧ counted.execAll ss = some u ∧
      ¬u.WellNamed ∧ ∃ ss', (Platform.ofRelease .sql2008).compile removeRenamed = .ok ss' ∧
        u.execAll ss' = none := by
  have suits : renameCounted.Suits counted :=
    ⟨rfl, by decide, by decide, by decide +kernel, by decide +kernel, by simp [renameCounted],
      by simp [renameCounted]⟩
  have renamed : counted.execAll [.renameColumn "T" "A" "B"] =
      some (counted.renameColumn "A" "B" ⟨"INT", false, none, true⟩) := by
    rw [Table.execAll_singleton, Statement.exec, if_pos (by decide +kernel)]
    rfl
  refine ⟨wellNamed_counted, suits, injOn_columnNames_counted (by decide), _, _,
    by decide +kernel, renamed, fun named => ?_,
    [.dropDefaultIfExists "T" (Sql.constraintName "T" "B"), .dropColumn "T" "B"],
    by decide +kernel, ?_⟩
  · have stale := (named (Sql.constraintName "T" "A") ⟨"B", "0"⟩ (by decide +kernel)).2
    exact absurd stale (by decide +kernel)
  · -- the guarded drop finds nothing, and the column cannot go while its constraint is there
    rfl

end TableDiff

end TsqlAlter
