import TsqlAlter.Proofs.DeclarationText
import TsqlAlter.Proofs.Locality
import TsqlAlter.Proofs.Server.Realization

/-!
# What the reduction of a change saves

A change is reduced so that a column is not redefined as what it is. Here the statements of a
reduced change are compared with those of the change itself. What the reduction takes away is a
redefinition of the column, with its default constraint dropped before and added again after it
where there is one. It is taken away only if the column would be declared as it was.

The reduction compares the types that the two versions of a column are declared with, and leaves
the other attributes alone. So it does not take away every statement without effect: a precision,
a scale or the fixed flag may differ without any difference in the declaration.

`Redundant` says which statements leave the column and its default as they are.

Results:
* `changeStatements_of_reduce`: a reduced change has other statements only where the redefinition
  is gone.
* `exists_suppressed`: the statements that are taken away are redundant.
* `compile_redeclared_eq_nil_iff`: which changes of a column that is declared as before have no
  statements.

Left out: changes tagged by hand. They may leave out an attribute in which the declarations differ.
-/

namespace TsqlAlter

variable {r : Release} {table : String} {before after : Column} {c k : Change}
  {ss : List Statement}

namespace Dialect

variable {d : Dialect}

/-! ## A change and what is left of it -/

/-- The plain compiler on what is left of a change. -/
theorem exists_reduce_of_reduce? {left : Option Change} (reduced : d.reduce? c = .ok left)
    (table : String) : ∃ k, d.reduce c = .ok k ∧ (left = none → k.isEmpty = true) ∧
      d.stepwise { name := table, changed := left.toList } = d.changeStatements table k := by
  cases left with
  | none =>
    obtain ⟨k, reduced, empty⟩ := reduce?_eq_ok_none_iff.1 reduced
    exact ⟨k, reduced, fun _ => empty, (changeStatements_of_isEmpty d table empty).symm⟩
  | some k =>
    obtain ⟨reduced, -⟩ := reduce?_eq_ok_some_iff.1 reduced
    exact ⟨k, reduced, nofun, d.stepwise_change table k⟩

/-- A reduced change redefines the column only if the change does. -/
theorem altersDefinition_of_reduce (reduced : d.reduce c = .ok k)
    (alters : k.altersDefinition = true) : c.altersDefinition = true := by
  obtain ⟨a, concerns, ha⟩ := (AttributeSet.altersDefinition_iff _).1 alters
  exact (AttributeSet.altersDefinition_iff _).2 ⟨a, concerns_of_reduce reduced concerns, ha⟩

theorem dropsConstraint_of_reduce (reduced : d.reduce c = .ok k) :
    k.dropsConstraint =
      (c.before.hasConstraint && (c.concerns .default || k.altersDefinition)) := by
  obtain ⟨-, before, -⟩ := reduce_fields reduced
  unfold Change.dropsConstraint
  rw [before, concerns_reduce_of_ne reduced (by decide) (by decide) (by decide)]

/-- **A reduced change has the statements of the change**, unless it does not redefine the column
any more. -/
theorem changeStatements_of_reduce (reduced : d.reduce c = .ok k)
    (same : k.altersDefinition = c.altersDefinition) (table : String) :
    d.changeStatements table k = d.changeStatements table c := by
  obtain ⟨oldName, -, after, renames⟩ := Change.standsFor_of_reduce reduced
  have default := concerns_reduce_of_ne reduced (a := .default) (by decide) (by decide) (by decide)
  have drops : k.dropsConstraint = c.dropsConstraint := by
    rw [dropsConstraint_of_reduce reduced, same]
    rfl
  unfold changeStatements redefinition Change.addedDefault?
  rw [renames, drops, same, default, oldName, after]

/-- A change that does not redefine the column renames it at most, if it concerns no constraint. -/
theorem changeStatements_of_stays (d : Dialect) (table : String)
    (stays : k.altersDefinition = false)
    (bare : k.concerns .default = true →
      k.before.constrainedDefault? = none ∧ k.after.constrainedDefault? = none) :
    d.changeStatements table k =
      .ok (if k.renames then [.renameColumn table k.oldName k.after.name] else []) := by
  have drops : k.dropsConstraint = false := by
    rw [Change.dropsConstraint, stays, Bool.or_false, Bool.and_eq_false_iff, ← Bool.not_eq_true,
      ← Bool.not_eq_true, ← not_and_or]
    rintro ⟨constrained, concerns⟩
    rw [Column.hasConstraint, (bare concerns).1] at constrained
    cases constrained
  have added : k.addedDefault? = none := by
    rw [Change.addedDefault?, drops, Bool.or_false]
    split
    · next concerns => exact (bare concerns).2
    · rfl
  refine changeStatements_eq_ok_iff.2 ⟨[], [], ?_, ?_, ?_⟩
  · rw [redefinition, stays]
    rfl
  · rw [added]
    rfl
  · rw [drops]
    simp

/-- Where the default changes too, all that is missing is the redefinition. -/
theorem changeStatements_of_default (reduced : d.reduce c = .ok k)
    (stays : k.altersDefinition = false) (concerns : c.concerns .default = true)
    (defaulted : d.defaultStatement table c.after c.addedDefault? = .ok ss) :
    d.changeStatements table k =
      .ok ((if c.renames then [.renameColumn table c.oldName c.after.name] else []) ++
        (if c.dropsConstraint then [.dropDefault table (Sql.constraintName table c.oldName)]
          else []) ++ ss) := by
  obtain ⟨oldName, -, after, renames⟩ := Change.standsFor_of_reduce reduced
  have concerned : k.concerns .default = c.concerns .default :=
    concerns_reduce_of_ne reduced (by decide) (by decide) (by decide)
  have drops : k.dropsConstraint = c.dropsConstraint := by
    rw [dropsConstraint_of_reduce reduced, Change.dropsConstraint, concerns]
    rfl
  have added : k.addedDefault? = c.addedDefault? := by
    rw [Change.addedDefault?, Change.addedDefault?, concerned, drops, after]
  refine changeStatements_eq_ok_iff.2 ⟨[], ss, ?_, ?_, ?_⟩
  · rw [redefinition, stays]
    rfl
  · rw [added, after]
    exact defaulted
  · rw [renames, drops, oldName, after, List.append_nil]

/-! ## Redundant statements -/

/-- **Redundant statements**, when one version of a column has just got the name of the other: none;
a redefinition of the column as what it is; or that with the default constraint dropped before it
and added after it, the literal being the same. -/
inductive Redundant (d : Dialect) (table : String) (before after : Column) :
    List Statement → Prop where
  | nothing : Redundant d table before after []
  | redefinition {declaration : Declaration} :
      d.declare (before.withName after.name) = .ok declaration →
      Redundant d table before after [.alterColumn table declaration]
  | rebuilt {declaration : Declaration} {value : DefaultValue} {literal : String} :
      d.declare (before.withName after.name) = .ok declaration →
      before.constrainedDefault? = some value → d.literal before.name value = .ok literal →
      after.constrainedDefault? = some value → d.literal after.name value = .ok literal →
      Redundant d table before after [
        .dropDefault table (Sql.constraintName table before.name),
        .alterColumn table declaration,
        .addDefault table ⟨Sql.constraintName table after.name, literal⟩ after.name]

end Dialect

namespace Release

/-- Where the default is kept, a redefinition of the column as what it is is redundant, with the
statements around it. -/
theorem redundant_of_kept {declaration : Declaration} {default : List Statement}
    (declared : r.dialect.declare (before.withName after.name) = .ok declaration)
    (kept : before.constrainedDefault? = after.constrainedDefault?)
    (alters : (Change.between before after).altersDefinition = true)
    (defaulted : r.dialect.defaultStatement table after
      (Change.between before after).addedDefault? = .ok default) :
    r.dialect.Redundant table before after
      ((if (Change.between before after).dropsConstraint then
        [.dropDefault table (Sql.constraintName table before.name)] else []) ++
      [.alterColumn table declaration] ++ default) := by
  rw [Change.addedDefault?_between (.inr alters), Dialect.defaultStatement_eq_ok_iff] at defaulted
  have drops : (Change.between before after).dropsConstraint = after.constrainedDefault?.isSome :=
    (Change.dropsConstraint_eq (.inr alters)).trans (congrArg Option.isSome kept)
  rw [drops]
  cases value : after.constrainedDefault? with
  | none =>
    rw [value] at defaulted
    subst defaulted
    exact .redefinition declared
  | some value' =>
    rw [value] at defaulted kept
    obtain ⟨literal, written, rfl⟩ := defaulted
    exact .rebuilt declared kept (DefaultValue.ofDefault_eq_ok_of_eq_ok written before.name) value
      written

/-- Where a change redefines the column and what is left of it does not, the statements that are
missing are redundant. -/
theorem exists_redundant_of_stays (exact : before.HasExactDefault)
    (reduced : r.dialect.reduce (.between before after) = .ok k)
    (stays : k.altersDefinition = false)
    (alters : (Change.between before after).altersDefinition = true)
    (compiled : r.dialect.changeStatements table (.between before after) = .ok ss) :
    ∃ first suppressed last, ss = first ++ suppressed ++ last ∧
      r.dialect.changeStatements table k = .ok (first ++ last) ∧
      r.dialect.Redundant table before after suppressed := by
  obtain ⟨redefine, default, redefined, defaulted, rfl⟩ :=
    Dialect.changeStatements_eq_ok_iff.1 compiled
  rw [Dialect.redefinition_eq_ok_iff, if_pos alters] at redefined
  obtain ⟨declaration, declared, rfl⟩ := redefined
  have declared : r.dialect.declare (before.withName after.name) = .ok declaration :=
    (declare_of_stays reduced stays).trans declared
  cases concerns : (Change.between before after).concerns .default with
  | true =>
    exact ⟨_, [.alterColumn table declaration], default, rfl,
      Dialect.changeStatements_of_default reduced stays concerns defaulted, .redefinition declared⟩
  | false =>
    -- the default is the same, and its constraint stays where it is
    have agree : Column.defaultsAgree before.default after.default = true := by
      simpa [Change.concerns, Column.differ] using concerns
    have redundant :=
      redundant_of_kept declared (exact.constrainedDefault?_eq agree) alters defaulted
    obtain ⟨oldName, -, sameAfter, renames⟩ := Change.standsFor_of_reduce reduced
    have unconcerned : k.concerns .default = false :=
      (Dialect.concerns_reduce_of_ne reduced (by decide) (by decide) (by decide)).trans concerns
    refine ⟨if (Change.between before after).renames then
      [.renameColumn table before.name after.name] else [], _, [], ?_, ?_, redundant⟩
    · simp only [List.append_assoc, List.append_nil]
      rfl
    · rw [Dialect.changeStatements_of_stays _ _ stays (by simp [unconcerned]), renames, oldName,
        sameAfter, List.append_nil]
      rfl

/-- A change of which nothing is left leaves everything but the sign as it is. -/
theorem same_of_isEmpty (exact : before.HasExactDefault)
    (reduced : r.dialect.reduce (.between before after) = .ok k) (empty : k.isEmpty = true) :
    before.name = after.name ∧ r.dialect.declare before = r.dialect.declare after ∧
      before.constrainedDefault? = after.constrainedDefault? := by
  have concerns (a : Attribute) : k.concerns a = false := (AttributeSet.isEmpty_iff _).1 empty a
  have stays : k.altersDefinition = false :=
    Change.altersDefinition_eq_false_iff.2 fun a _ => concerns a
  have differ {a : Attribute} (hu : a ≠ .unsigned) (ht : a ≠ .type) (hl : a ≠ .length) :
      before.differ after a = false := by
    rw [← concerns a, Dialect.concerns_reduce_of_ne reduced hu ht hl]
    rfl
  have name : before.name = after.name := by
    simpa [Column.differ] using differ (a := .name) (by decide) (by decide) (by decide)
  have agree : Column.defaultsAgree before.default after.default = true := by
    simpa [Column.differ] using differ (a := .default) (by decide) (by decide) (by decide)
  refine ⟨name, ?_, exact.constrainedDefault?_eq agree⟩
  rw [← declare_of_stays reduced stays, ← name]
  rfl

/-- **The reduction of a change takes away redundant statements only.** What the plain compiler
makes of the reduced change is part of what it makes of the change itself. What is missing stands in
one place and is redundant, and where nothing is left of the change, the column is called and
declared as before and needs the same constraint. -/
theorem exists_suppressed (exact : before.HasExactDefault) {left : Option Change}
    (reduced : r.dialect.reduce? (.between before after) = .ok left)
    (compiled :
      r.dialect.stepwise { name := table, changed := [.between before after] } = .ok ss) :
    ∃ first suppressed last, ss = first ++ suppressed ++ last ∧
      r.dialect.stepwise { name := table, changed := left.toList } = .ok (first ++ last) ∧
      r.dialect.Redundant table before after suppressed ∧
      (left = none → before.name = after.name ∧
        r.dialect.declare before = r.dialect.declare after ∧
        before.constrainedDefault? = after.constrainedDefault?) := by
  obtain ⟨k, reduced, none, stepwise⟩ := Dialect.exists_reduce_of_reduce? reduced table
  rw [Dialect.stepwise_change] at compiled
  rw [stepwise]
  have dropped (h : left = .none) := same_of_isEmpty exact reduced (none h)
  by_cases same : k.altersDefinition = (Change.between before after).altersDefinition
  · refine ⟨ss, [], [], by simp, ?_, .nothing, dropped⟩
    rw [Dialect.changeStatements_of_reduce reduced same, compiled, List.append_nil]
  · have stays : k.altersDefinition = false := by
      rw [← Bool.not_eq_true]
      intro alters
      exact same (alters.trans (Dialect.altersDefinition_of_reduce reduced alters).symm)
    have alters : (Change.between before after).altersDefinition = true := by
      rwa [stays, eq_comm, Bool.not_eq_false] at same
    obtain ⟨first, suppressed, last, split, emitted, redundant⟩ :=
      exists_redundant_of_stays exact reduced stays alters compiled
    exact ⟨first, suppressed, last, split, emitted, redundant, dropped⟩

/-- A column gets another name and another type, which the server does not tell from the old one. -/
def renamedNote : Column × Column :=
  ({ name := "A", type := .text, default := some (.string "a") },
    { name := "B", type := .json, default := some (.string "a") })

/-- All that is left is the new name. -/
theorem exists_suppressed_renamedNote : ∃ left ss first suppressed last,
    renamedNote.1.HasExactDefault ∧
    sql2008.dialect.reduce? (.between renamedNote.1 renamedNote.2) = .ok left ∧
    sql2008.dialect.stepwise
      { name := "T", changed := [.between renamedNote.1 renamedNote.2] } = .ok ss ∧
    ss.length = 4 ∧ ss = first ++ suppressed ++ last ∧
    first ++ last = [.renameColumn "T" "A" "B"] ∧
    sql2008.dialect.Redundant "T" renamedNote.1 renamedNote.2 suppressed := by
  let left := some ((Change.between renamedNote.1 renamedNote.2).without .unsigned).untyped
  let ss : List Statement := [
    .renameColumn "T" "A" "B",
    .dropDefault "T" (Sql.constraintName "T" "A"),
    .alterColumn "T" ⟨"B", "NVARCHAR(MAX)", false, none, true⟩,
    .addDefault "T" ⟨Sql.constraintName "T" "B", "'a'"⟩ "B"]
  have exact : renamedNote.1.HasExactDefault := by decide
  have reduced :
      sql2008.dialect.reduce? (.between renamedNote.1 renamedNote.2) = .ok left := by
    decide +kernel
  have compiled : sql2008.dialect.stepwise
      { name := "T", changed := [.between renamedNote.1 renamedNote.2] } = .ok ss := by
    decide +kernel
  obtain ⟨first, suppressed, last, split, emitted, redundant, -⟩ :=
    exists_suppressed exact reduced compiled
  have renamed : sql2008.dialect.stepwise { name := "T", changed := left.toList } =
      .ok [.renameColumn "T" "A" "B"] := by
    decide +kernel
  exact ⟨left, ss, first, suppressed, last, exact, reduced, compiled, rfl, split,
    Except.ok.inj (emitted.symm.trans renamed), redundant⟩

/-! ## Columns that are declared as before -/

section Redeclared

variable {b a : Declaration}

/-- Two columns of one name and one collation are declared alike if their declarations read
alike. -/
theorem declaration_eq_of_text (name : before.name = after.name)
    (collation : before.collation = after.collation)
    (declaredBefore : r.dialect.declare before = .ok b)
    (declaredAfter : r.dialect.declare after = .ok a) (same : b.text = a.text) : b = a := by
  obtain ⟨type, typed, rfl⟩ := (Dialect.declare_eq_ok_iff ..).1 declaredBefore
  obtain ⟨type', typed', rfl⟩ := (Dialect.declare_eq_ok_iff ..).1 declaredAfter
  obtain ⟨t, -, rfl⟩ := (typeText_eq_ok_iff ..).1 typed
  obtain ⟨u, -, rfl⟩ := (typeText_eq_ok_iff ..).1 typed'
  exact Declaration.eq_of_text rfl rfl name collation same

/-- What is left of a change does not redefine a column that is declared as before, if the
precision, the scale and the fixed flag are the same. -/
theorem exists_stays_of_declare
    (precision : before.precision = after.precision) (scale : before.scale = after.scale)
    (fixed : before.fixed = after.fixed) (declaredBefore : r.dialect.declare before = .ok a)
    (declaredAfter : r.dialect.declare after = .ok a) :
    ∃ k, r.dialect.reduce (.between before after) = .ok k ∧ k.altersDefinition = false := by
  obtain ⟨type, typed, rfl⟩ := (Dialect.declare_eq_ok_iff ..).1 declaredAfter
  obtain ⟨type', typed', same⟩ := (Dialect.declare_eq_ok_iff ..).1 declaredBefore
  obtain ⟨-, rfl, identity, collation, nullable⟩ := Declaration.mk.inj same
  have others (x : Attribute) (hx : x.altersDefinition = true) (ht : x ≠ .type)
      (hl : x ≠ .length) : before.differ after x = false := by
    cases x <;> simp_all [Column.differ, Attribute.altersDefinition]
  have stays {k : Change} (reduced : r.dialect.reduce (.between before after) = .ok k)
      (type : k.concerns .type = false) (length : k.concerns .length = false) :
      k.altersDefinition = false := by
    refine Change.altersDefinition_eq_false_iff.2 fun x hx => ?_
    by_cases ht : x = .type
    · exact ht ▸ type
    by_cases hl : x = .length
    · exact hl ▸ length
    rw [← Bool.not_eq_true]
    intro concerns
    have concerned : before.differ after x = true := Dialect.concerns_of_reduce reduced concerns
    exact Bool.false_ne_true ((others x hx ht hl).symm.trans concerned)
  by_cases compares : (Change.between before after).concernsType = true
  · have compared : r.dialect.comparedTypes (.between before after) = .ok (type, type) :=
      Dialect.comparedTypes_eq_ok_iff.2 ⟨typed', typeText_withName typed before.name⟩
    have reduced := Dialect.reduce_of_comparedTypes compares compared
    rw [if_pos rfl] at reduced
    exact ⟨_, reduced, stays reduced (by simp) (by simp)⟩
  · rw [Bool.not_eq_true] at compares
    have reduced := Dialect.reduce_of_not_concernsType (d := r.dialect) compares
    rw [Change.concernsType, Bool.or_eq_false_iff] at compares
    exact ⟨_, reduced, stays reduced (by simp [compares.1]) (by simp [compares.2])⟩

/-- Defaults that differ where the constraints agree need no constraints. -/
theorem constrainedDefault?_eq_none
    (agree : Column.defaultsAgree before.constrainedDefault? after.constrainedDefault? = true)
    (differ : before.differ after .default = true) :
    before.constrainedDefault? = none ∧ after.constrainedDefault? = none := by
  cases hb : before.constrainedDefault? with
  | none =>
    cases ha : after.constrainedDefault? with
    | none => exact ⟨rfl, rfl⟩
    | some w => simp [hb, ha, Column.defaultsAgree] at agree
  | some v =>
    cases ha : after.constrainedDefault? with
    | none => simp [hb, ha, Column.defaultsAgree] at agree
    | some w =>
      rw [hb, ha] at agree
      rw [Column.differ, Column.default_of_constrainedDefault? hb,
        Column.default_of_constrainedDefault? ha, agree] at differ
      cases differ

/-- What is left of a change that keeps the name and the constraint has no statements unless it
redefines the column. -/
theorem changeStatements_eq_nil_of_stays (name : before.name = after.name)
    (agree : Column.defaultsAgree before.constrainedDefault? after.constrainedDefault? = true)
    (reduced : r.dialect.reduce (.between before after) = .ok k)
    (stays : k.altersDefinition = false) : r.dialect.changeStatements table k = .ok [] := by
  obtain ⟨-, sameBefore, sameAfter, sameRenames⟩ := Change.standsFor_of_reduce reduced
  have renames : k.renames = false := by
    rw [sameRenames, Change.renames_between, name, bne_self_eq_false]
  rw [Dialect.changeStatements_of_stays _ _ stays, renames]
  · rfl
  · intro concerns
    rw [sameBefore, sameAfter]
    exact constrainedDefault?_eq_none agree (Dialect.concerns_of_reduce reduced concerns)

/-- What is left of a change redefines the column with its new declaration, if it does so at all. -/
theorem alterColumn_mem_of_reduce (reduced : r.dialect.reduce (.between before after) = .ok k)
    (alters : k.altersDefinition = true) (declared : r.dialect.declare after = .ok a)
    (emitted : r.dialect.changeStatements table k = .ok ss) : .alterColumn table a ∈ ss := by
  obtain ⟨redefine, default, redefined, -, rfl⟩ := Dialect.changeStatements_eq_ok_iff.1 emitted
  rw [Dialect.redefinition_eq_ok_iff, if_pos alters, (Dialect.reduce_fields reduced).2.2]
    at redefined
  obtain ⟨declaration, declared', rfl⟩ := redefined
  cases declared.symm.trans declared'
  simp

/-- **Which changes of a column that is declared as before have no statements.** The two versions of
the column have one name, declarations of one text, and defaults that need the same constraint or
none. Whatever the type, the length, the sign and an explicit null are, there is no statement
exactly if the precision, the scale, the fixed flag and the collation are the same. Else the column
is redefined with the declaration it has. -/
theorem compile_redeclared_eq_nil_iff (name : before.name = after.name)
    (declaredBefore : r.dialect.declare before = .ok b)
    (declaredAfter : r.dialect.declare after = .ok a) (same : b.text = a.text)
    (agree : Column.defaultsAgree before.constrainedDefault? after.constrainedDefault? = true) :
    ((Platform.ofRelease r).compile { name := table, changed := [.between before after] } = .ok [] ↔
      before.precision = after.precision ∧ before.scale = after.scale ∧
        before.fixed = after.fixed ∧ before.collation = after.collation) ∧
    ∀ ss, (Platform.ofRelease r).compile { name := table, changed := [.between before after] } =
      .ok ss → ss = [] ∨ .alterColumn table a ∈ ss := by
  constructor
  · rw [Platform.compile_change]
    constructor
    · rintro ⟨k, reduced, emitted⟩
      have stays : k.altersDefinition = false := by
        rw [← Bool.not_eq_true]
        intro alters
        exact List.not_mem_nil (alterColumn_mem_of_reduce reduced alters declaredAfter emitted)
      have precision := differ_of_stays reduced stays (a := .precision) rfl (by decide) (by decide)
      have scale := differ_of_stays reduced stays (a := .scale) rfl (by decide) (by decide)
      have fixed := differ_of_stays reduced stays (a := .fixed) rfl (by decide) (by decide)
      have collation := differ_of_stays reduced stays (a := .collation) rfl (by decide) (by decide)
      simp only [Column.differ, bne_eq_false_iff_eq] at precision scale fixed collation
      exact ⟨precision, scale, fixed, collation⟩
    · rintro ⟨precision, scale, fixed, collation⟩
      cases declaration_eq_of_text name collation declaredBefore declaredAfter same
      obtain ⟨k, reduced, stays⟩ :=
        exists_stays_of_declare precision scale fixed declaredBefore declaredAfter
      exact ⟨k, reduced, changeStatements_eq_nil_of_stays name agree reduced stays⟩
  · intro ss compiled
    obtain ⟨k, reduced, emitted⟩ := Platform.compile_change.1 compiled
    cases alters : k.altersDefinition with
    | false =>
      rw [changeStatements_eq_nil_of_stays name agree reduced alters] at emitted
      cases emitted
      exact .inl rfl
    | true => exact .inr (alterColumn_mem_of_reduce reduced alters declaredAfter emitted)

/-- A column gets another type, a length, a sign and an explicit null, and is declared as before. -/
def retypedNote : Column × Column :=
  ({ name := "A", type := .text },
    { name := "A", type := .json, length := some 10, default := some .null, unsigned := true })

theorem compile_retypedNote_eq_nil :
    sql2008.dialect.declare retypedNote.1 = .ok ⟨"A", "NVARCHAR(MAX)", false, none, true⟩ ∧
    sql2008.dialect.declare retypedNote.2 = .ok ⟨"A", "NVARCHAR(MAX)", false, none, true⟩ ∧
    Column.defaultsAgree retypedNote.1.constrainedDefault?
      retypedNote.2.constrainedDefault? = true ∧
    (Platform.ofRelease sql2008).compile
      { name := "T", changed := [.between retypedNote.1 retypedNote.2] } = .ok [] := by
  have before : sql2008.dialect.declare retypedNote.1 =
      .ok ⟨"A", "NVARCHAR(MAX)", false, none, true⟩ := by decide
  have after : sql2008.dialect.declare retypedNote.2 =
      .ok ⟨"A", "NVARCHAR(MAX)", false, none, true⟩ := by decide
  exact ⟨before, after, by decide,
    (compile_redeclared_eq_nil_iff rfl before after rfl (by decide)).1.2 ⟨rfl, rfl, rfl, rfl⟩⟩

/-- A number gets the precision that it has anyway. -/
def preciseAmount : Column × Column :=
  ({ name := "A", type := .decimal }, { name := "A", type := .decimal, precision := some 10 })

/-- A column may not be null any more, and its collation is cut short by what says so. -/
def collatedNote : Column × Column :=
  ({ name := "A", type := .text, collation := some "X NOT NULL" },
    { name := "A", type := .text, collation := some "X", nullable := false })

/-- **Redefined as what they are**: columns of one name whose declarations read alike, and which
have no defaults, for which there is a statement nevertheless. -/
theorem compile_redeclared_ne_nil :
    (preciseAmount.1.name = preciseAmount.2.name ∧ ∃ b a,
      sql2008.dialect.declare preciseAmount.1 = .ok b ∧
      sql2008.dialect.declare preciseAmount.2 = .ok a ∧ b.text = a.text ∧
      preciseAmount.1.constrainedDefault? = preciseAmount.2.constrainedDefault? ∧
      (Platform.ofRelease sql2008).compile
        { name := "T", changed := [.between preciseAmount.1 preciseAmount.2] } =
        .ok [.alterColumn "T" a]) ∧
    collatedNote.1.name = collatedNote.2.name ∧ ∃ b a,
      sql2008.dialect.declare collatedNote.1 = .ok b ∧
      sql2008.dialect.declare collatedNote.2 = .ok a ∧ b.text = a.text ∧
      collatedNote.1.constrainedDefault? = collatedNote.2.constrainedDefault? ∧
      (Platform.ofRelease sql2008).compile
        { name := "T", changed := [.between collatedNote.1 collatedNote.2] } =
        .ok [.alterColumn "T" a] :=
  ⟨⟨rfl, ⟨"A", "NUMERIC(10, 0)", false, none, true⟩, ⟨"A", "NUMERIC(10, 0)", false, none, true⟩,
      by decide +kernel, by decide +kernel, rfl, rfl, by decide +kernel⟩,
    ⟨rfl, ⟨"A", "NVARCHAR(MAX)", false, some "X NOT NULL", true⟩,
      ⟨"A", "NVARCHAR(MAX)", false, some "X", false⟩,
      by decide +kernel, by decide +kernel, by decide +kernel, rfl, by decide +kernel⟩⟩

end Redeclared

end Release

end TsqlAlter
