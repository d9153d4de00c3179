import TsqlAlter.Proofs.Server.Naming
import TsqlAlter.Proofs.Server.Soundness

/-!
# Redefined columns

A column that is redefined, or gets another default, may be renamed by the same change. Its default
constraint has to go under its old name, when the column has the new one already, and comes back
under the new name. Here the statements of such a change are executed on a sound table in which that
column is as the change expects it; the other columns may be anything, and their default constraints
may have any other names.

`Holds` is what the change expects of its column, and `DiffersIn` says that two tables differ in
that column only.

Results:
* `changeStatements_between_eq_ok_iff`: the statements of such a change and their order.
* `MakesChanged.default_between`: its column ends with just the default constraint that the new
  version needs.
* `differsIn_of_lists`: a table whose catalog differs in one row differs in one column.
* `Holds.exists_redefined`: the statements are executed, the new version of the column takes the
  place of the old one, and nothing else in the table changes.

Left out: identity columns, since a redefinition neither gives an identity nor takes it, and changes
that redefine nothing and leave the default alone.
-/

namespace TsqlAlter

open Std (ExtTreeMap)

variable {r : Release} {before after : Column} {t u : Table} {table : String} {ss : List Statement}

/-! ## The statements -/

/-- **The statements of a change that concerns the default or redefines the column**: a new name,
the old constraint dropped, the redefinition, the new constraint, each where there is need of it. -/
theorem Dialect.changeStatements_between_eq_ok_iff {d : Dialect}
    (touches : (Change.between before after).concerns .default = true ∨
      (Change.between before after).altersDefinition = true) :
    d.changeStatements table (.between before after) = .ok ss ↔
      ∃ redefine default, d.redefinition table (.between before after) = .ok redefine ∧
        d.defaultStatement table after after.constrainedDefault? = .ok default ∧
        ss = (if before.name != after.name then
            [.renameColumn table before.name after.name] else []) ++
          (if before.hasConstraint then
            [.dropDefault table (Sql.constraintName table before.name)] else []) ++
          redefine ++ default := by
  rw [changeStatements_eq_ok_iff, Change.dropsConstraint_eq touches,
    Change.addedDefault?_between touches, Change.renames_between]
  rfl

namespace Dialect

variable {old new : Row}

/-- **The default constraint after such a change** is the one that the new version of the column
needs, made from its own literal. -/
theorem MakesChanged.default_between
    (made : r.dialect.MakesChanged table (.between before after) old new)
    (touches : (Change.between before after).concerns .default = true ∨
      (Change.between before after).altersDefinition = true)
    (constrained : before.hasConstraint = old.default.isSome) :
    Option.Rel (fun value e => e.name = Sql.constraintName table after.name ∧
        r.dialect.literal after.name value = .ok e.literal)
      after.constrainedDefault? new.default := by
  have default := made.default
  rw [Change.addedDefault?_between touches, Change.dropsConstraint_eq touches] at default
  cases hv : after.constrainedDefault? with
  | none =>
    rw [hv] at default
    have bare : new.default = none := by
      rw [default]
      split
      · rfl
      · next kept =>
        have unneeded : before.hasConstraint = false := by
          rw [← Bool.not_eq_true]
          exact kept
        simpa using constrained.symm.trans unneeded
    rw [bare]
    exact .none
  | some value =>
    rw [hv] at default
    obtain ⟨literal, written, e⟩ := default
    rw [e]
    exact .some ⟨rfl, written⟩

end Dialect

namespace Table

/-! ## Tables that differ in one column -/

/-- **The table holds the column**, declared as the release declares it. The column has a default
constraint exactly if it needs one, and that is named after the table and the column. -/
structure Holds (t : Table) (r : Release) (x : Column) : Prop where
  declared : ∃ a, t.columns[x.name]? = some a ∧ r.Declares x a
  constrained : t.hasDefault x.name = x.hasConstraint
  named (k : String) (e : ColumnDefault) : t.constraints[k]? = some e → e.column = x.name →
    k = Sql.constraintName t.name x.name

/-- **The tables differ in one column only**, which has one name in the first and another in the
second. -/
structure DiffersIn (t u : Table) (old new : String) : Prop where
  name : u.name = t.name
  gone : old ≠ new → old ∉ u.columns
  columns (n : String) : n ≠ old → n ≠ new → u.columns[n]? = t.columns[n]?
  constraints (k n literal : String) : n ≠ old → n ≠ new →
    (u.constraints[k]? = some ⟨n, literal⟩ ↔ t.constraints[k]? = some ⟨n, literal⟩)

end Table

section Lists

variable {c : Catalog} {i : String} {old new : Row}

theorem Catalog.rows_set_eq_some_iff (hi : c.rows i = some old) {n : String} (ho : n ≠ old.name)
    (hn : n ≠ new.name) (j : String) (a : Attributes) (default : Option DefaultConstraint) :
    (c.set i (some new)).rows j = some ⟨n, a, default⟩ ↔ c.rows j = some ⟨n, a, default⟩ := by
  by_cases hji : j = i
  · subst hji
    rw [rows_set_self, hi, Option.some.injEq, Option.some.injEq]
    exact ⟨fun same => absurd (same ▸ rfl) hn, fun same => absurd (same ▸ rfl) ho⟩
  · rw [rows_set_of_ne _ hji]

/-- A table whose catalog differs in one row differs in one column. -/
theorem Table.differsIn_of_lists (lists : c.Lists t) (lists' : (c.set i (some new)).Lists u)
    (hi : c.rows i = some old) : t.DiffersIn u old.name new.name where
  name := lists'.name.trans lists.name.symm
  gone differ there := by
    obtain ⟨j, row, hj, same⟩ := lists'.mem_columns_iff.1 there
    rw [Catalog.rows_set] at hj
    split at hj
    · cases hj
      exact differ same.symm
    · next hji => exact hji (lists.key_eq j i row old hj hi same)
  columns n ho hn := by
    ext b
    rw [lists'.columns, lists.columns]
    simp only [Catalog.rows_set_eq_some_iff hi ho hn]
  constraints k n literal ho hn := by
    rw [lists'.constraints, lists.constraints]
    simp only [Catalog.rows_set_eq_some_iff hi ho hn]

end Lists

namespace Table

variable {c : Catalog} {i : String} {row : Row} {x : Column}

/-- What a row says of the column it is about. -/
theorem holds_of_lists (lists : c.Lists t) (hi : c.rows i = some row) (name : row.name = x.name)
    (declared : r.Declares x row.attributes)
    (default : Option.Rel (fun value e => e.name = Sql.constraintName t.name x.name ∧
      r.dialect.literal x.name value = .ok e.literal) x.constrainedDefault? row.default) :
    t.Holds r x ∧ ∀ (k literal : String), t.constraints[k]? = some ⟨x.name, literal⟩ →
      ∃ value, x.constrainedDefault? = some value ∧
        r.dialect.literal x.name value = .ok literal := by
  obtain ⟨n, a, e?⟩ := row
  cases name
  have held {k literal : String} (he : t.constraints[k]? = some ⟨x.name, literal⟩) :
      ∃ value, x.constrainedDefault? = some value ∧ k = Sql.constraintName t.name x.name ∧
        r.dialect.literal x.name value = .ok literal := by
    rw [lists.getElem?_constraints_iff hi] at he
    subst he
    exact exists_of_rel_some_right default
  refine ⟨⟨⟨a, lists.getElem?_columns hi, declared⟩, ?_, fun k e he column => ?_⟩,
    fun k literal he => ?_⟩
  · rw [lists.hasDefault_eq hi]
    exact (isSome_eq_of_rel default).symm
  · obtain ⟨n, literal⟩ := e
    cases column
    obtain ⟨-, -, named, -⟩ := held he
    exact named
  · obtain ⟨value, needed, -, written⟩ := held he
    exact ⟨value, needed, written⟩

/-- The row of a column that a sound table holds is what a change expects. -/
theorem Holds.exists_row (holds : t.Holds r before) (sound : t.Sound) (after : Column) :
    ∃ old, (t.catalogWith t.default?).rows before.name = some old ∧
      r.Declares before old.attributes ∧ (Change.between before after).Finds t.name old := by
  obtain ⟨a, there, declared⟩ := holds.declared
  have row : (t.catalogWith t.default?).rows before.name =
      some ⟨before.name, a, t.default? before.name⟩ :=
    rows_catalogWith_eq_some_iff.2 ⟨there, rfl, rfl⟩
  refine ⟨_, row, declared, rfl, ?_, fun e he => ?_⟩
  · exact holds.constrained.symm.trans (sound.lists_catalogWith.hasDefault_eq row)
  · exact holds.named _ _ (sound.default?_eq_some_iff.1 he) rfl

/-- **A redefined column ends as it should.** The change concerns the default or redefines the
column, and may rename it. The table is sound and holds the old version of the column; no other
column has the new name, and no other one has a default constraint of the name that the new one's
will have. Then the statements of the change are executed in their order, the column is held in its
new version with the new literal, and nothing else has changed. -/
theorem Holds.exists_redefined (holds : t.Holds r before) (sound : t.Sound)
    (plain : before.autoincrement = false ∧ after.autoincrement = false)
    (touches : (Change.between before after).concerns .default = true ∨
      (Change.between before after).altersDefinition = true)
    (free : before.name ≠ after.name → after.name ∉ t.columns)
    (unused : ∀ e : ColumnDefault, t.constraints[Sql.constraintName t.name after.name]? = some e →
      e.column = before.name)
    (compiled : r.dialect.stepwise { name := t.name, changed := [.between before after] } =
      .ok ss) :
    (∃ redefine default, r.dialect.redefinition t.name (.between before after) = .ok redefine ∧
      r.dialect.defaultStatement t.name after after.constrainedDefault? = .ok default ∧
      ss = (if before.name != after.name then
          [.renameColumn t.name before.name after.name] else []) ++
        (if before.hasConstraint then
          [.dropDefault t.name (Sql.constraintName t.name before.name)] else []) ++
        redefine ++ default) ∧
    ∃ u, t.execAll ss = some u ∧ u.Sound ∧ u.Holds r after ∧
      (∀ (k literal : String), u.constraints[k]? = some ⟨after.name, literal⟩ →
        ∃ value, after.constrainedDefault? = some value ∧
          r.dialect.literal after.name value = .ok literal) ∧
      t.DiffersIn u before.name after.name := by
  rw [Dialect.stepwise_change] at compiled
  refine ⟨(Dialect.changeStatements_between_eq_ok_iff touches).1 compiled, ?_⟩
  have lists := sound.lists_catalogWith
  obtain ⟨old, row, declared, finds⟩ := holds.exists_row sound after
  have free (renames : (Change.between before after).renames = true) :
      (t.catalogWith t.default?).Free after.name := by
    rw [Change.renames_between, bne_iff_ne] at renames
    exact lists.free (free renames)
  have kept (stays : (Change.between before after).renames = false) : after.name = before.name := by
    rw [Change.renames_between, bne_eq_false_iff_eq] at stays
    exact stays.symm
  obtain ⟨new, carried, made⟩ :=
    Catalog.carries_steps compiled rfl row finds free
      (lists.unusedBut row (finds.name.symm ▸ unused)) kept
  obtain ⟨u, executed, lists'⟩ := carried t lists
  have name : u.name = t.name := lists'.name
  have leads := r.leads_between before after
  obtain ⟨held, literals⟩ := holds_of_lists lists' (Catalog.rows_set_self ..) made.name
    (made.declares leads plain declared)
    (name ▸ made.default_between touches finds.constrained)
  have differs := differsIn_of_lists lists lists' row
  rw [finds.name, made.name] at differs
  exact ⟨u, executed, sound.execAll executed, held, literals, differs⟩

/-- A column gets another name and another type, and keeps its default. -/
def widenedCount : Column × Column :=
  ({ name := "A", type := .integer, default := some (.integer 0) },
    { name := "B", type := .bigint, default := some (.integer 0) })

/-- Its default constraint is dropped under the old name and added again under the new one. -/
theorem Holds.exists_redefined_widenedCount :
    TableDiff.counted.Holds .sql2008 widenedCount.1 ∧ TableDiff.counted.Sound ∧ ∃ ss u,
      Release.sql2008.dialect.stepwise
        { name := "T", changed := [.between widenedCount.1 widenedCount.2] } = .ok ss ∧
      ss.length = 4 ∧ TableDiff.counted.execAll ss = some u ∧ u.Holds .sql2008 widenedCount.2 ∧
      u.hasDefault "B" = true ∧ TableDiff.counted.DiffersIn u "A" "B" := by
  have sound := TableDiff.wellNamed_counted.sound
  have holds : TableDiff.counted.Holds .sql2008 widenedCount.1 := by
    refine ⟨⟨⟨"INT", false, none, true⟩, by decide +kernel, ⟨"A", "INT", false, none, true⟩,
      by decide +kernel, rfl⟩, by decide +kernel, ?_⟩
    intro k e he column
    rw [(TableDiff.wellNamed_counted k e he).2, column]
  have compiled : Release.sql2008.dialect.stepwise
      { name := "T", changed := [.between widenedCount.1 widenedCount.2] } = .ok [
        .renameColumn "T" "A" "B",
        .dropDefault "T" (Sql.constraintName "T" "A"),
        .alterColumn "T" ⟨"B", "BIGINT", false, none, true⟩,
        .addDefault "T" ⟨Sql.constraintName "T" "B", "0"⟩ "B"] := by
    decide +kernel
  have unused : TableDiff.counted.constraints[
      Sql.constraintName TableDiff.counted.name widenedCount.2.name]? = none := by
    decide +kernel
  obtain ⟨-, u, executed, -, held, -, differs⟩ := holds.exists_redefined sound ⟨rfl, rfl⟩
    (.inr (by decide)) (fun _ => by decide +kernel)
    (fun e he => by cases unused.symm.trans he) compiled
  exact ⟨holds, sound, _, u, compiled, rfl, executed, held, held.constrained, differs⟩

end Table

end TsqlAlter
