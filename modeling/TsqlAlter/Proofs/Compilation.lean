import TsqlAlter.Proofs.Delegation

/-!
# The statements of a diff

A platform over its plain compiler compiles a diff entry by entry. Here its answer is taken apart
into the statements of the entries, and those of a change into its four steps: the column is
renamed, loses its default, is redefined and gets its default again.

Results:
* `changeStatements_eq_ok_iff`: the steps of a change.
* `compile_eq_ok_iff`: the statements of a diff, entry by entry.

Left out: other fallbacks than the plain compiler, about which nothing of the kind can be said.
-/

namespace TsqlAlter

/-- The change between two versions of a column renames it exactly if they differ in the name. -/
theorem Change.renames_between (before after : Column) :
    (Change.between before after).renames = (before.name != after.name) :=
  Bool.and_self _

/-- A change does not redefine the column if it concerns nothing that would. -/
theorem Change.altersDefinition_eq_false_iff {c : Change} :
    c.altersDefinition = false ↔
      ∀ a : Attribute, a.altersDefinition = true → c.concerns a = false := by
  rw [← Bool.not_eq_true, altersDefinition, AttributeSet.altersDefinition_iff]
  simp only [not_exists, not_and', Bool.not_eq_true]
  rfl

namespace Dialect

variable {d : Dialect} {table : String} {c k : Change} {ss : List Statement}

/-! ## One change -/

theorem redefinition_eq_ok_iff :
    d.redefinition table c = .ok ss ↔
      if c.altersDefinition then
        ∃ declaration, d.declare c.after = .ok declaration ∧ ss = [.alterColumn table declaration]
      else ss = [] := by
  unfold redefinition
  split
  · rw [map_eq_ok_iff]
    simp only [eq_comm]
  · simp [eq_comm]

theorem defaultStatement_eq_ok_iff {column : Column} {default : Option DefaultValue} :
    d.defaultStatement table column default = .ok ss ↔
      match default with
      | none => ss = []
      | some value => ∃ literal, d.literal column.name value = .ok literal ∧
          ss = [.addDefault table ⟨Sql.constraintName table column.name, literal⟩ column.name] := by
  cases default with
  | none => simp [defaultStatement, eq_comm]
  | some value =>
    unfold defaultStatement constraint
    cases hl : d.literal column.name value with
    | error e => simp [hl, bind, Except.bind, Except.map]
    | ok literal => simp [hl, bind, Except.bind, Except.map, pure, Except.pure, eq_comm]

/-- **The steps of a change.** -/
theorem changeStatements_eq_ok_iff :
    d.changeStatements table c = .ok ss ↔
      ∃ redefine default, d.redefinition table c = .ok redefine ∧
        d.defaultStatement table c.after c.addedDefault? = .ok default ∧
        ss = (if c.renames then [.renameColumn table c.oldName c.after.name] else []) ++
          (if c.dropsConstraint then [.dropDefault table (Sql.constraintName table c.oldName)]
            else []) ++ redefine ++ default := by
  constructor
  · intro h
    obtain ⟨redefine, hr, h⟩ := bind_eq_ok_iff.1 h
    obtain ⟨default, hd, h⟩ := bind_eq_ok_iff.1 h
    cases h
    exact ⟨redefine, default, hr, hd, rfl⟩
  · rintro ⟨redefine, default, hr, hd, rfl⟩
    exact bind_eq_ok_iff.2 ⟨redefine, hr, bind_eq_ok_iff.2 ⟨default, hd, rfl⟩⟩

/-! ## All changes of a diff -/

/-- Changes that concern nothing may be left out. -/
theorem forEach_changeStatements_filter (d : Dialect) (table : String) (cs : List Change) :
    forEach (d.changeStatements table) (cs.filter (!·.isEmpty)) =
      forEach (d.changeStatements table) cs := by
  induction cs with
  | nil => rfl
  | cons c more ih =>
    by_cases empty : c.isEmpty = true
    · rw [List.filter_cons_of_neg (by simp [empty]), ih, forEach_cons,
        changeStatements_of_isEmpty d table empty]
      cases forEach (d.changeStatements table) more <;> rfl
    · rw [List.filter_cons_of_pos (by simpa using empty), forEach_cons, forEach_cons, ih]

/-- The plain compiler on a single change. -/
theorem stepwise_change (d : Dialect) (table : String) (c : Change) :
    d.stepwise { name := table, changed := [c] } = d.changeStatements table c := by
  unfold stepwise
  rw [forEach_changeStatements_filter, forEach_cons]
  cases d.changeStatements table c with
  | error e => rfl
  | ok ss => simp [forEach, bind, Except.bind, pure, Except.pure, Except.map, removals,
      columnRenames, tableRename]

/-- The statements of a change, once it is reduced. -/
def Emits (d : Dialect) (table : String) (c : Change) (part : List Statement) : Prop :=
  ∃ k, d.reduce c = .ok k ∧ d.changeStatements table k = .ok part

/-- The statements of the reduced changes are those of the changes: a change of which nothing is
left has none. -/
theorem exists_emits_of_kept {cs ks : List Change} (hk : d.kept cs = .ok ks)
    (h : forEach (d.changeStatements table) (ks.filter (!·.isEmpty)) = .ok ss) :
    ∃ parts, List.Forall₂ (d.Emits table) cs parts ∧ ss = parts.flatten := by
  induction cs generalizing ks ss with
  | nil =>
    cases hk
    cases h
    exact ⟨[], .nil, rfl⟩
  | cons c more ih =>
    rw [kept_cons] at hk
    obtain ⟨k, hc, hk⟩ := bind_eq_ok_iff.1 hk
    obtain ⟨ls, hl, rfl⟩ := map_eq_ok_iff.1 hk
    cases k with
    | none =>
      obtain ⟨k, hr, empty⟩ := reduce?_eq_ok_none_iff.1 hc
      obtain ⟨parts, hp, rfl⟩ := ih hl h
      exact ⟨[] :: parts, .cons ⟨k, hr, changeStatements_of_isEmpty d table empty⟩ hp, rfl⟩
    | some k =>
      obtain ⟨hr, full⟩ := reduce?_eq_ok_some_iff.1 hc
      rw [Option.toList_some, List.singleton_append, List.filter_cons_of_pos (by simp [full])] at h
      obtain ⟨first, rest, hf, hrest, rfl⟩ := forEach_cons_eq_ok_iff.1 h
      obtain ⟨parts, hp, rfl⟩ := ih hl hrest
      exact ⟨first :: parts, .cons ⟨k, hr, hf⟩ hp, rfl⟩

/-- Where each change has its statements, all of them together have these. -/
theorem exists_kept_of_emits {cs : List Change} {parts : List (List Statement)}
    (h : List.Forall₂ (d.Emits table) cs parts) :
    ∃ ks, d.kept cs = .ok ks ∧
      forEach (d.changeStatements table) (ks.filter (!·.isEmpty)) = .ok parts.flatten := by
  induction h with
  | nil => exact ⟨[], rfl, rfl⟩
  | @cons c part more parts emits _ ih =>
    obtain ⟨k, hr, hf⟩ := emits
    obtain ⟨ks, hk, hrest⟩ := ih
    by_cases empty : k.isEmpty = true
    · rw [changeStatements_of_isEmpty d table empty] at hf
      cases hf
      refine ⟨ks, ?_, hrest⟩
      rw [kept_cons, reduce?_eq_ok_none_iff.2 ⟨k, hr, empty⟩, hk]
      rfl
    · have full : k.isEmpty = false := by simpa using empty
      refine ⟨k :: ks, ?_, ?_⟩
      · rw [kept_cons, reduce?_eq_ok_some_iff.2 ⟨hr, full⟩, hk]
        rfl
      · rw [List.filter_cons_of_pos (by simp [full])]
        exact forEach_cons_eq_ok_iff.2 ⟨part, parts.flatten, hf, hrest, rfl⟩

theorem forEach_of_adds {cs : List Column} {ss : List Statement}
    (h : List.Forall₂ (d.Adds table) cs ss) : forEach (d.inlineAddition table) cs = .ok ss := by
  induction h with
  | nil => rfl
  | cons adds _ ih =>
    have first := inlineAddition_eq_ok_iff.2 ⟨_, adds, rfl⟩
    exact forEach_cons_eq_ok_iff.2 ⟨_, _, first, ih, rfl⟩

end Dialect

namespace Platform

open Dialect

/-- **The statements of a diff**, entry by entry: the added columns, the default constraints of the
removed columns and then these themselves, the changes, the renamed columns, the table's name. A
diff is compiled exactly when its added columns and its changes have statements. -/
theorem compile_eq_ok_iff {r : Release} {d : TableDiff} {ss : List Statement} :
    (ofRelease r).compile d = .ok ss ↔
      ∃ additions changes, List.Forall₂ (r.dialect.Adds d.name) d.added additions ∧
        List.Forall₂ (r.dialect.Emits d.name) d.changed changes ∧
        ss = additions ++ guardedDrops d ++
          (removals d ++ changes.flatten ++ columnRenames d ++ tableRename d) := by
  rw [ofRelease, compile_eq]
  constructor
  · intro h
    obtain ⟨ks, hk, h⟩ := bind_eq_ok_iff.1 h
    obtain ⟨additions, ha, h⟩ := bind_eq_ok_iff.1 h
    obtain ⟨delegated, hd, h⟩ := bind_eq_ok_iff.1 h
    obtain ⟨none, hn, hd⟩ := bind_eq_ok_iff.1 hd
    obtain ⟨changed, hc, hd⟩ := bind_eq_ok_iff.1 hd
    cases h
    cases hd
    cases hn
    obtain ⟨changes, emits, rfl⟩ := exists_emits_of_kept hk hc
    exact ⟨additions, changes, exists_adds_of_forEach ha, emits, rfl⟩
  · rintro ⟨additions, changes, adds, emits, rfl⟩
    obtain ⟨ks, hk, hc⟩ := exists_kept_of_emits emits
    rw [hk, forEach_of_adds adds]
    show (stepwise r.dialect _ >>= _) = _
    rw [stepwise]
    dsimp only
    rw [hc]
    rfl

end Platform

end TsqlAlter
