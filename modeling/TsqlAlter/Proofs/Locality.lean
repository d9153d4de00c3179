import Mathlib.Data.List.Perm.Basic
import TsqlAlter.Proofs.Compilation

/-!
# Compiling entry by entry

A diff has entries: columns added, removed, changed and renamed, and perhaps a new table name. Each
entry alone is a diff of the same table (`entries`). The platform over its plain compiler compiles a
diff exactly when it compiles each of these, and puts their statements together by kind: columns
that are added, guarded drops of constraints, columns that are removed, changes, columns and the
table under new names. Within a kind the statements stand in the order of the entries. So the
statements of an entry do not depend on the others.

`Portions` is a list of statements for each entry, `all` of them entry by entry, and `regrouped`
puts them in the order of the whole. `Local` says what the statements of a diff have to do with its
entries.

Results:
* `compile_addition`, `compile_removal`, `compile_change`, `compile_rename`, `compile_newName`: the
  statements of an entry alone.
* `Portions.of_iff`: the statements of all entries, each alone.
* `compile_eq_ok_iff_portions`: a diff is compiled to the statements of its entries, regrouped.
* `compile_entries`: so none is lost or given twice, a guarded drop comes before the removal of its
  column, and entries in another order have their statements in that order.

Left out: entries that contradict each other. Their statements stand there as well, and it is for
the server to refuse them.
-/

namespace TsqlAlter

namespace Statement

/-- Drops a constraint if it is there. -/
def isGuarded : Statement → Bool
  | dropDefaultIfExists _ _ => true
  | _ => false

/-- Removes a column. -/
def isRemoval : Statement → Bool
  | dropColumn _ _ => true
  | _ => false

end Statement

namespace TableDiff

/-- The added columns, each alone. -/
def additions (d : TableDiff) : List TableDiff :=
  d.added.map fun c => { name := d.name, added := [c] }

/-- The removed columns, each alone. -/
def removals (d : TableDiff) : List TableDiff :=
  d.removed.map fun c => { name := d.name, removed := [c] }

/-- The changes, each alone. -/
def changes (d : TableDiff) : List TableDiff :=
  d.changed.map fun c => { name := d.name, changed := [c] }

/-- The renamed columns, each alone. -/
def renames (d : TableDiff) : List TableDiff :=
  d.renamed.map fun x => { name := d.name, renamed := [x] }

/-- The new name of the table alone. -/
def tableRename (d : TableDiff) : List TableDiff :=
  d.newName.toList.map fun n => { name := d.name, newName := some n }

/-- The entries of a diff, each alone. -/
def entries (d : TableDiff) : List TableDiff :=
  d.additions ++ d.removals ++ d.changes ++ d.renames ++ d.tableRename

end TableDiff

/-! ## Lists of statements -/

section Lists

variable {α β : Type} {R : α → β → Prop}

theorem forall₂_eq_map_iff {f : α → β} {as : List α} {bs : List β} :
    List.Forall₂ (fun a b => b = f a) as bs ↔ bs = as.map f := by
  constructor
  · intro h
    induction h with
    | nil => rfl
    | cons first _ ih => rw [first, ih, List.map_cons]
  · rintro rfl
    rw [List.forall₂_map_right_iff, List.forall₂_same]
    exact fun a _ => rfl

theorem forall₂_singleton_iff {as : List α} {parts : List (List β)} :
    List.Forall₂ (fun a part => ∃ b, R a b ∧ part = [b]) as parts ↔
      ∃ bs, List.Forall₂ R as bs ∧ parts = bs.map fun b => [b] := by
  constructor
  · intro h
    induction h with
    | nil => exact ⟨[], .nil, rfl⟩
    | cons first _ ih =>
      obtain ⟨b, hb, rfl⟩ := first
      obtain ⟨bs, related, rfl⟩ := ih
      exact ⟨b :: bs, .cons hb related, rfl⟩
  · rintro ⟨bs, related, rfl⟩
    rw [List.forall₂_map_right_iff]
    exact related.imp fun a b hb => ⟨b, hb, rfl⟩

theorem exists_forall₂_iff {as : List α} :
    (∃ bs, List.Forall₂ R as bs) ↔ ∀ a ∈ as, ∃ b, R a b := by
  induction as with
  | nil => exact ⟨fun _ a ha => absurd ha List.not_mem_nil, fun _ => ⟨[], .nil⟩⟩
  | cons a as ih =>
    rw [List.forall_mem_cons, ← ih]
    constructor
    · rintro ⟨bs, related⟩
      cases related with
      | cons first rest => exact ⟨⟨_, first⟩, _, rest⟩
    · rintro ⟨⟨b, first⟩, bs, rest⟩
      exact ⟨b :: bs, .cons first rest⟩

/-- Entries in another order have partners in that order. -/
theorem exists_perm_of_forall₂ {as as' : List α} {bs : List β} (perm : as'.Perm as)
    (h : List.Forall₂ R as bs) : ∃ bs', List.Forall₂ R as' bs' ∧ bs'.Perm bs :=
  List.perm_comp_forall₂ perm h

end Lists

namespace Platform

open Dialect

variable {r : Release} {d : TableDiff} {ss : List Statement} {table : String}

/-! ## One entry -/

theorem compile_addition {c : Column} :
    (ofRelease r).compile { name := table, added := [c] } = .ok ss ↔
      ∃ s, r.dialect.Adds table c s ∧ ss = [s] := by
  rw [compile_eq_ok_iff]
  constructor
  · rintro ⟨additions, changes, adds, emits, rfl⟩
    cases emits
    obtain ⟨s, rest, hs, hrest, rfl⟩ := List.forall₂_cons_left_iff.1 adds
    cases hrest
    exact ⟨s, hs, rfl⟩
  · rintro ⟨s, hs, rfl⟩
    exact ⟨[s], [], .cons hs .nil, .nil, rfl⟩

/-- The statements that remove a column. -/
def removal (table : String) (c : Column) : List Statement :=
  (if c.hasConstraint then
    [.dropDefaultIfExists table (Sql.constraintName table c.name)] else []) ++
    [.dropColumn table c.name]

theorem compile_removal {c : Column} :
    (ofRelease r).compile { name := table, removed := [c] } = .ok ss ↔ ss = removal table c := by
  let d : TableDiff := { name := table, removed := [c] }
  have alone : guardedDrops d ++
      (Dialect.removals d ++ [] ++ columnRenames d ++ Dialect.tableRename d) = removal table c := by
    cases hc : c.hasConstraint <;>
      simp [d, guardedDrops, Dialect.removals, columnRenames, Dialect.tableRename, removal, hc]
  rw [compile_eq_ok_iff]
  constructor
  · rintro ⟨additions, changes, adds, emits, rfl⟩
    cases adds
    cases emits
    exact alone
  · rintro rfl
    exact ⟨[], [], .nil, .nil, alone.symm⟩

theorem compile_change {c : Change} :
    (ofRelease r).compile { name := table, changed := [c] } = .ok ss ↔
      r.dialect.Emits table c ss := by
  have alone (part : List Statement) : ([part].flatten ++ [] ++ [] : List Statement) = part := by
    simp
  rw [compile_eq_ok_iff]
  constructor
  · rintro ⟨additions, changes, adds, emits, rfl⟩
    cases adds
    obtain ⟨part, rest, hpart, hrest, rfl⟩ := List.forall₂_cons_left_iff.1 emits
    cases hrest
    exact (alone part).symm ▸ hpart
  · intro h
    exact ⟨[], [ss], .nil, .cons h .nil, (alone ss).symm⟩

theorem compile_rename {x : Rename} :
    (ofRelease r).compile { name := table, renamed := [x] } = .ok ss ↔
      ss = [.renameColumn table x.oldName x.column.name] := by
  rw [compile_eq_ok_iff]
  constructor
  · rintro ⟨additions, changes, adds, emits, rfl⟩
    cases adds
    cases emits
    rfl
  · rintro rfl
    exact ⟨[], [], .nil, .nil, rfl⟩

theorem compile_newName {n : String} :
    (ofRelease r).compile { name := table, newName := some n } = .ok ss ↔
      ss = [.renameTable table n] := by
  rw [compile_eq_ok_iff]
  constructor
  · rintro ⟨additions, changes, adds, emits, rfl⟩
    cases adds
    cases emits
    rfl
  · rintro rfl
    exact ⟨[], [], .nil, .nil, rfl⟩

/-! ## All entries -/

/-- Statements for each entry of a diff. -/
structure Portions where
  additions : List (List Statement)
  removals : List (List Statement)
  changes : List (List Statement)
  renames : List (List Statement)
  tableRename : List (List Statement)

namespace Portions

/-- All statements, entry by entry. -/
def all (p : Portions) : List (List Statement) :=
  p.additions ++ p.removals ++ p.changes ++ p.renames ++ p.tableRename

/-- The statements by kind, and within a kind in the order of the entries. -/
def regrouped (p : Portions) : List Statement :=
  p.additions.flatten ++ p.removals.flatten.filter (·.isGuarded) ++
    p.removals.flatten.filter (!·.isGuarded) ++ p.changes.flatten ++ p.renames.flatten ++
    p.tableRename.flatten

/-- They are those of the entries of a diff, each compiled alone. -/
structure Of (p : Portions) (r : Release) (d : TableDiff) : Prop where
  additions : List.Forall₂ (fun e ss => (ofRelease r).compile e = .ok ss) d.additions p.additions
  removals : List.Forall₂ (fun e ss => (ofRelease r).compile e = .ok ss) d.removals p.removals
  changes : List.Forall₂ (fun e ss => (ofRelease r).compile e = .ok ss) d.changes p.changes
  renames : List.Forall₂ (fun e ss => (ofRelease r).compile e = .ok ss) d.renames p.renames
  tableRename : List.Forall₂ (fun e ss => (ofRelease r).compile e = .ok ss) d.tableRename
    p.tableRename

variable {p : Portions}

/-- **The statements of all entries**, each alone. -/
theorem of_iff :
    p.Of r d ↔ ∃ additions, List.Forall₂ (r.dialect.Adds d.name) d.added additions ∧
      p.additions = additions.map (fun s => [s]) ∧
      p.removals = d.removed.map (removal d.name) ∧
      List.Forall₂ (r.dialect.Emits d.name) d.changed p.changes ∧
      p.renames = d.renamed.map (fun x => [.renameColumn d.name x.oldName x.column.name]) ∧
      p.tableRename = d.newName.toList.map fun n => [.renameTable d.name n] := by
  have each : p.Of r d ↔ List.Forall₂ _ _ _ ∧ List.Forall₂ _ _ _ ∧ List.Forall₂ _ _ _ ∧
      List.Forall₂ _ _ _ ∧ List.Forall₂ _ _ _ :=
    ⟨fun h => ⟨h.1, h.2, h.3, h.4, h.5⟩, fun h => ⟨h.1, h.2.1, h.2.2.1, h.2.2.2.1, h.2.2.2.2⟩⟩
  rw [each]
  simp only [TableDiff.additions, TableDiff.removals, TableDiff.changes, TableDiff.renames,
    TableDiff.tableRename, List.forall₂_map_left_iff, compile_addition, compile_removal,
    compile_change, compile_rename, compile_newName, forall₂_singleton_iff, forall₂_eq_map_iff]
  constructor
  · rintro ⟨⟨additions, adds, added⟩, rest⟩
    exact ⟨additions, adds, added, rest⟩
  · rintro ⟨additions, adds, added, rest⟩
    exact ⟨⟨additions, adds, added⟩, rest⟩

theorem filter_flatten_removals (d : TableDiff) :
    (d.removed.map (removal d.name)).flatten.filter (·.isGuarded) = guardedDrops d ∧
      (d.removed.map (removal d.name)).flatten.filter (!·.isGuarded) = Dialect.removals d := by
  unfold guardedDrops Dialect.removals
  generalize d.removed = cs
  induction cs with
  | nil => exact ⟨rfl, rfl⟩
  | cons c cs ih =>
    rw [List.map_cons, List.flatten_cons, List.filter_append, List.filter_append, ih.1, ih.2]
    unfold removal
    cases hc : c.hasConstraint <;> simp [hc, Statement.isGuarded]

/-- The statements of the entries, regrouped, are those of the steps of the platform. -/
theorem regrouped_eq {additions : List Statement} (added : p.additions = additions.map fun s => [s])
    (removed : p.removals = d.removed.map (removal d.name))
    (renamed : p.renames = d.renamed.map fun x =>
      [.renameColumn d.name x.oldName x.column.name])
    (named : p.tableRename = d.newName.toList.map fun n => [.renameTable d.name n]) :
    p.regrouped = additions ++ guardedDrops d ++
      (Dialect.removals d ++ p.changes.flatten ++ columnRenames d ++ Dialect.tableRename d) := by
  have additions : p.additions.flatten = additions := by
    rw [added, ← List.flatMap_def, List.flatMap_singleton']
  have renames : p.renames.flatten = columnRenames d := by
    rw [renamed, ← List.flatMap_def, ← List.map_eq_flatMap]
    rfl
  have tableRename : p.tableRename.flatten = Dialect.tableRename d := by
    rw [named, Dialect.tableRename]
    cases d.newName <;> rfl
  rw [regrouped, additions, removed, (filter_flatten_removals d).1, (filter_flatten_removals d).2,
    renames, tableRename]
  simp only [List.append_assoc]

end Portions

/-- **A diff is compiled to the statements of its entries, regrouped**, and to nothing else. -/
theorem compile_eq_ok_iff_portions :
    (ofRelease r).compile d = .ok ss ↔ ∃ p : Portions, p.Of r d ∧ ss = p.regrouped := by
  rw [compile_eq_ok_iff]
  constructor
  · rintro ⟨additions, changes, adds, emits, rfl⟩
    let p : Portions := ⟨additions.map fun s => [s], d.removed.map (removal d.name), changes,
      d.renamed.map fun x => [.renameColumn d.name x.oldName x.column.name],
      d.newName.toList.map fun n => [.renameTable d.name n]⟩
    have portions : p.Of r d := Portions.of_iff.2 ⟨additions, adds, rfl, rfl, emits, rfl, rfl⟩
    have same : p.regrouped = _ := Portions.regrouped_eq rfl rfl rfl rfl
    exact ⟨p, portions, same.symm⟩
  · rintro ⟨p, portions, rfl⟩
    obtain ⟨additions, adds, added, removed, emits, renamed, named⟩ := Portions.of_iff.1 portions
    exact ⟨additions, p.changes, adds, emits, Portions.regrouped_eq added removed renamed named⟩

/-! ## What follows for a diff -/

/-- A change neither drops a constraint only if it is there nor removes a column. -/
theorem plain_of_emits {c : Change} (h : r.dialect.Emits table c ss) :
    ∀ s ∈ ss, s.isGuarded = false ∧ s.isRemoval = false := by
  obtain ⟨k, -, h⟩ := h
  obtain ⟨redefine, default, hr, hd, rfl⟩ := changeStatements_eq_ok_iff.1 h
  intro s hs
  rw [List.mem_append, List.mem_append, List.mem_append] at hs
  rcases hs with ((hs | hs) | hs) | hs
  · split at hs
    · cases List.mem_singleton.1 hs
      exact ⟨rfl, rfl⟩
    · cases hs
  · split at hs
    · cases List.mem_singleton.1 hs
      exact ⟨rfl, rfl⟩
    · cases hs
  · rw [redefinition_eq_ok_iff] at hr
    split at hr
    · obtain ⟨declaration, -, rfl⟩ := hr
      cases List.mem_singleton.1 hs
      exact ⟨rfl, rfl⟩
    · subst hr
      cases hs
  · rw [defaultStatement_eq_ok_iff] at hd
    split at hd
    · subst hd
      cases hs
    · obtain ⟨literal, -, rfl⟩ := hd
      cases List.mem_singleton.1 hs
      exact ⟨rfl, rfl⟩

namespace Portions

variable {p : Portions}

theorem perm_regrouped (p : Portions) : p.regrouped.Perm p.all.flatten := by
  have removals := List.filter_append_perm (·.isGuarded) p.removals.flatten
  have additions := removals.append_left p.additions.flatten
  rw [regrouped, all]
  simp only [List.flatten_append, List.append_assoc] at additions ⊢
  simpa only [List.append_assoc] using
    additions.append_right (p.changes.flatten ++ (p.renames.flatten ++ p.tableRename.flatten))

/-- The guarded drop for a removed column comes before the removal. -/
theorem Of.sublist (h : p.Of r d) {c : Column} (hc : c ∈ d.removed)
    (constrained : c.hasConstraint = true) :
    [.dropDefaultIfExists d.name (Sql.constraintName d.name c.name),
      .dropColumn d.name c.name].Sublist p.regrouped := by
  obtain ⟨additions, -, added, removed, -, renamed, named⟩ := of_iff.1 h
  have guard : .dropDefaultIfExists d.name (Sql.constraintName d.name c.name) ∈ guardedDrops d :=
    List.mem_map.2 ⟨c, List.mem_filter.2 ⟨hc, constrained⟩, rfl⟩
  have drop : .dropColumn d.name c.name ∈ Dialect.removals d := List.mem_map.2 ⟨c, hc, rfl⟩
  have both := (List.singleton_sublist.2 guard).append (List.singleton_sublist.2 drop)
  rw [regrouped_eq added removed renamed named, List.append_assoc]
  refine (both.trans ?_).trans (List.sublist_append_right ..)
  rw [List.append_assoc, List.append_assoc, ← List.append_assoc]
  exact List.sublist_append_left ..

/-- No guarded drop comes after the removal of a column. Up to the guarded drops there is no
removal, and after them there is no guarded drop. -/
theorem Of.pairwise (h : p.Of r d) :
    p.regrouped.Pairwise fun s t => ¬(s.isRemoval = true ∧ t.isGuarded = true) := by
  obtain ⟨additions, adds, added, removed, emits, renamed, named⟩ := of_iff.1 h
  rw [regrouped_eq added removed renamed named, List.pairwise_append]
  have front : ∀ s ∈ additions ++ guardedDrops d, s.isRemoval = false := by
    intro s hs
    rcases List.mem_append.1 hs with hs | hs
    · obtain ⟨c, -, declaration, default, -, rfl, -⟩ := exists_of_mem_right adds s hs
      rfl
    · obtain ⟨c, -, rfl⟩ := List.mem_map.1 hs
      rfl
  have back : ∀ s ∈ Dialect.removals d ++ p.changes.flatten ++ columnRenames d ++
      Dialect.tableRename d, s.isGuarded = false := by
    intro s hs
    rw [List.mem_append, List.mem_append, List.mem_append] at hs
    rcases hs with ((hs | hs) | hs) | hs
    · obtain ⟨c, -, rfl⟩ := List.mem_map.1 hs
      rfl
    · obtain ⟨part, hpart, hs⟩ := List.mem_flatten.1 hs
      obtain ⟨c, -, made⟩ := exists_of_mem_right emits part hpart
      exact (plain_of_emits made s hs).1
    · obtain ⟨x, -, rfl⟩ := List.mem_map.1 hs
      rfl
    · rw [Dialect.tableRename, Option.mem_toList, Option.map_eq_some_iff] at hs
      obtain ⟨n, -, rfl⟩ := hs
      rfl
  refine ⟨List.pairwise_of_forall_mem_list fun s hs t _ => ?_,
    List.pairwise_of_forall_mem_list fun s _ t ht => ?_, fun s hs t _ => ?_⟩
  · simp [front s hs]
  · simp [back t ht]
  · simp [front s hs]

/-- What the statements of a diff have to do with its entries. -/
structure Local (p : Portions) (r : Release) (d : TableDiff) : Prop where
  /-- None of the statements of an entry is lost, and none is given twice. -/
  perm : p.regrouped.Perm p.all.flatten
  /-- The guarded drop for a removed column comes before the removal, -/
  sublist : ∀ c ∈ d.removed, c.hasConstraint = true →
    [.dropDefaultIfExists d.name (Sql.constraintName d.name c.name),
      .dropColumn d.name c.name].Sublist p.regrouped
  /-- and no guarded drop comes after a removal. -/
  pairwise : p.regrouped.Pairwise fun s t => ¬(s.isRemoval = true ∧ t.isGuarded = true)
  /-- Entries of one kind in another order have their statements in that order, and the statements
  of the other kinds stay. -/
  additions : ∀ cs, cs.Perm d.added → ∃ new, new.Perm p.additions ∧
    (ofRelease r).compile { d with added := cs } = .ok { p with additions := new }.regrouped
  removals : ∀ cs, cs.Perm d.removed → ∃ new, new.Perm p.removals ∧
    (ofRelease r).compile { d with removed := cs } = .ok { p with removals := new }.regrouped
  changes : ∀ cs, cs.Perm d.changed → ∃ new, new.Perm p.changes ∧
    (ofRelease r).compile { d with changed := cs } = .ok { p with changes := new }.regrouped
  renames : ∀ xs, xs.Perm d.renamed → ∃ new, new.Perm p.renames ∧
    (ofRelease r).compile { d with renamed := xs } = .ok { p with renames := new }.regrouped

theorem Of.compile (h : p.Of r d) : (ofRelease r).compile d = .ok p.regrouped :=
  compile_eq_ok_iff_portions.2 ⟨p, h, rfl⟩

theorem Of.isLocal (h : p.Of r d) : p.Local r d where
  perm := p.perm_regrouped
  sublist _ hc constrained := h.sublist hc constrained
  pairwise := h.pairwise
  additions cs perm := by
    obtain ⟨new, each, reordered⟩ := exists_perm_of_forall₂ (perm.map _) h.additions
    exact ⟨new, reordered, Of.compile { h with additions := each }⟩
  removals cs perm := by
    obtain ⟨new, each, reordered⟩ := exists_perm_of_forall₂ (perm.map _) h.removals
    exact ⟨new, reordered, Of.compile { h with removals := each }⟩
  changes cs perm := by
    obtain ⟨new, each, reordered⟩ := exists_perm_of_forall₂ (perm.map _) h.changes
    exact ⟨new, reordered, Of.compile { h with changes := each }⟩
  renames xs perm := by
    obtain ⟨new, each, reordered⟩ := exists_perm_of_forall₂ (perm.map _) h.renames
    exact ⟨new, reordered, Of.compile { h with renames := each }⟩

/-- Each entry has statements exactly when all of them have. -/
theorem exists_of_iff :
    (∃ p : Portions, p.Of r d) ↔ ∀ e ∈ d.entries, ∃ ss, (ofRelease r).compile e = .ok ss := by
  simp only [TableDiff.entries, List.forall_mem_append, ← exists_forall₂_iff]
  constructor
  · rintro ⟨p, h⟩
    exact ⟨⟨⟨⟨⟨_, h.additions⟩, _, h.removals⟩, _, h.changes⟩, _, h.renames⟩, _, h.tableRename⟩
  · rintro ⟨⟨⟨⟨⟨_, additions⟩, _, removals⟩, _, changes⟩, _, renames⟩, _, tableRename⟩
    exact ⟨⟨_, _, _, _, _⟩, additions, removals, changes, renames, tableRename⟩

end Portions

/-- **Compiling is local.** A diff is compiled exactly when each of its entries is compiled alone,
and then to their statements, regrouped by kind. -/
theorem compile_entries (r : Release) (d : TableDiff) :
    (∀ ss, (ofRelease r).compile d = .ok ss ↔ ∃ p : Portions, p.Of r d ∧ ss = p.regrouped) ∧
    ((∃ p : Portions, p.Of r d) ↔ ∀ e ∈ d.entries, ∃ ss, (ofRelease r).compile e = .ok ss) ∧
    ∀ p : Portions, p.Of r d → p.Local r d :=
  ⟨fun _ => compile_eq_ok_iff_portions, Portions.exists_of_iff, fun _ portions => portions.isLocal⟩

/-- The statement that widens the score. -/
def widenScore : Statement := .alterColumn "orders" ⟨"score", "BIGINT", false, none, true⟩

/-- The law at a diff with two changes, the first one without effect, and with a column to remove
that has a default constraint. -/
theorem compile_entries_mixed :
    ∃ p : Portions, p.Of .sql2008 mixed ∧ p.Local .sql2008 mixed ∧
      p.changes = [[], [widenScore]] ∧
      p.removals = [[.dropDefaultIfExists "orders" (Sql.constraintName "orders" "status"),
        .dropColumn "orders" "status"]] := by
  obtain ⟨compiled, -, isLocal⟩ := compile_entries .sql2008 mixed
  have succeeded : failure? ((ofRelease .sql2008).compile mixed) = none := by decide +kernel
  obtain ⟨ss, hss⟩ := failure?_eq_none_iff.1 succeeded
  obtain ⟨p, portions, -⟩ := (compiled ss).1 hss
  obtain ⟨-, -, -, removed, -⟩ := Portions.of_iff.1 portions
  have changes := portions.changes
  obtain ⟨signed, rest, hsigned, hrest, both⟩ := List.forall₂_cons_left_iff.1 changes
  obtain ⟨scored, rest, hscored, hrest, last⟩ := List.forall₂_cons_left_iff.1 hrest
  cases hrest
  have nothing : Except.ok [] = Except.ok signed := hsigned
  cases nothing
  have widened : (ofRelease .sql2008).compile { name := "orders", changed := [widenedScore] } =
      .ok [widenScore] := by
    decide +kernel
  cases widened.symm.trans hscored
  exact ⟨p, portions, isLocal p portions, by rw [both, last], removed⟩

end Platform

end TsqlAlter
