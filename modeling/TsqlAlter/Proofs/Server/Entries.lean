import TsqlAlter.Proofs.Compilation
import TsqlAlter.Proofs.Server.Steps

/-!
# What the statements of an entry do

The statements of each entry of a diff change the row of one column, and leave it with names that
can be traced back to that column. A changed column goes through up to four steps, and its default
constraint is only named anew if the change dropped it or added it.

`MakesAdded` and `MakesChanged` say what becomes of the row, and `Change.Finds` what the row has to
be for a change.

Results:
* `carries_addition`: what adding a column makes.
* `carries_steps`: what the statements of a change make of its column, where the names they give are
  free.
* `carries_change`: so they are where names can be traced back, and afterwards they still can.

Left out: entries that only rename a column. They change nothing of the row but the name.
-/

namespace TsqlAlter

variable {d : Dialect} {k : Change} {c : Catalog} {table i : String} {row old : Row}
  {home : String → String} {names : Set String} {ss : List Statement}

namespace Dialect

/-- The row is that of an added column. -/
structure MakesAdded (d : Dialect) (table : String) (x : Column) (new : Row) : Prop where
  name : new.name = x.name
  attributes : ∃ declaration, d.declare x = .ok declaration ∧
    new.attributes = declaration.attributes
  default : match x.constrainedDefault? with
    | none => new.default = none
    | some value => ∃ literal, d.literal x.name value = .ok literal ∧
        new.default = some ⟨Sql.constraintName table x.name, literal⟩

/-- The row is what a reduced change makes of another. -/
structure MakesChanged (d : Dialect) (table : String) (k : Change) (old new : Row) : Prop where
  name : new.name = k.after.name
  attributes : if k.altersDefinition then
      ∃ declaration, d.declare k.after = .ok declaration ∧
        new.attributes = { declaration.attributes with identity := old.attributes.identity }
    else new.attributes = old.attributes
  default : match k.addedDefault? with
    | none => new.default = if k.dropsConstraint then none else old.default
    | some value => ∃ literal, d.literal k.after.name value = .ok literal ∧
        new.default = some ⟨Sql.constraintName table k.after.name, literal⟩

theorem name_of_declare {x : Column} {declaration : Declaration}
    (h : d.declare x = .ok declaration) : declaration.name = x.name := by
  obtain ⟨type, -, rfl⟩ := (declare_eq_ok_iff d x declaration).1 h
  rfl

end Dialect

/-- The row is that of the column a change finds: it has the old name, and a default constraint made
for that name exactly if the old version of the column says so. -/
structure Change.Finds (k : Change) (table : String) (row : Row) : Prop where
  name : row.name = k.oldName
  constrained : k.before.hasConstraint = row.default.isSome
  named (e : DefaultConstraint) : row.default = some e →
    e.name = Sql.constraintName table k.oldName

/-- The change stands for another one: it is about the same two versions of the column. -/
structure Change.StandsFor (k x : Change) : Prop where
  oldName : k.oldName = x.oldName
  before : k.before = x.before
  after : k.after = x.after
  renames : k.renames = x.renames

theorem Change.standsFor_self (x : Change) : x.StandsFor x := ⟨rfl, rfl, rfl, rfl⟩

/-- What is left of a change stands for it. -/
theorem Change.standsFor_of_reduce {x : Change} (reduced : d.reduce x = .ok k) :
    k.StandsFor x := by
  obtain ⟨sameName, sameBefore, sameAfter⟩ := Dialect.reduce_fields reduced
  refine ⟨sameName, sameBefore, sameAfter, ?_⟩
  unfold renames
  rw [sameName, sameAfter, Dialect.concerns_reduce_of_ne reduced] <;> decide

/-- A change that redefines the column or adds its default has dropped the old default, or there was
none. -/
theorem Change.hasConstraint_eq_false (h : k.altersDefinition = true ∨ k.addedDefault? ≠ none)
    (kept : k.dropsConstraint = false) : k.before.hasConstraint = false := by
  have concerns : (k.concerns .default || k.altersDefinition) = true := by
    rcases h with alters | added
    · rw [alters, Bool.or_true]
    · unfold addedDefault? at added
      rw [kept, Bool.or_false] at added
      split at added
      · next concerns => rw [concerns, Bool.true_or]
      · exact absurd rfl added
  rwa [dropsConstraint, concerns, Bool.and_true] at kept

namespace Catalog

/-! ## Added columns -/

theorem carries_addition {x : Column} {s : Statement} (adds : d.Adds table x s)
    (name : c.name = table) (traced : c.Traced home names)
    (distinct : Set.InjOn Checksum.hash names) (hx : x.name ∈ names) (own : home x.name = x.name)
    (absent : c.rows x.name = none) :
    ∃ new, Carries [s] c (c.set x.name (some new)) ∧
      (c.set x.name (some new)).Traced home names ∧ d.MakesAdded table x new := by
  obtain ⟨declaration, default, declared, rfl, hd⟩ := adds
  have same := Dialect.name_of_declare declared
  have free : c.Free declaration.name := by
    rw [same]
    refine traced.free fun row hr => ?_
    rw [own, absent] at hr
    cases hr
  have unused : c.Unused (Sql.constraintName c.name x.name) := by
    refine traced.unused distinct hx fun row hr => ?_
    rw [own, absent] at hr
    cases hr
  have made : d.MakesAdded table x ⟨declaration.name, declaration.attributes, default⟩ := by
    refine ⟨same, ⟨declaration, declared, rfl⟩, ?_⟩
    revert hd
    cases x.constrainedDefault? with
    | none => exact id
    | some value => exact id
  have constraint_name (e : DefaultConstraint) (he : default = some e) :
      e.name = Sql.constraintName c.name x.name := by
    subst he
    revert hd
    cases x.constrainedDefault? with
    | none => simp
    | some value =>
      rintro ⟨literal, -, e⟩
      cases e
      rw [name]
  refine ⟨_, carries_addColumn name free absent fun e he => ?_, traced.set fun row hr => ?_, made⟩
  · rw [constraint_name e he]
    exact unused
  · cases hr
    exact ⟨by rw [same, own], fun e he => ⟨x.name, hx, own, constraint_name e he⟩⟩

/-! ## Changed columns -/

section Change

variable {a : Attributes} {default : Option DefaultConstraint}

/-- First the column gets its new name. -/
theorem carries_rename (name : c.name = table) (hi : c.rows i = some ⟨k.oldName, a, default⟩)
    (free : k.renames = true → c.Free k.after.name)
    (kept : k.renames = false → k.after.name = k.oldName) :
    Carries (if k.renames then [.renameColumn table k.oldName k.after.name] else []) c
      (c.set i (some ⟨k.after.name, a, default⟩)) := by
  by_cases renames : k.renames = true
  · rw [if_pos renames]
    exact carries_renameColumn name hi (free renames)
  · rw [if_neg renames, set_eq_self]
    · exact carries_nil c
    · rw [kept (by simpa using renames)]
      exact hi

/-- Then it loses its default constraint, if that has to go. -/
theorem carries_drop (name : c.name = table) (hi : c.rows i = some ⟨k.after.name, a, default⟩)
    (constrained : k.before.hasConstraint = default.isSome)
    (named : ∀ e, default = some e → e.name = Sql.constraintName table k.oldName) :
    Carries (if k.dropsConstraint then
        [.dropDefault table (Sql.constraintName table k.oldName)] else []) c
      (c.set i (some ⟨k.after.name, a, if k.dropsConstraint then none else default⟩)) := by
  by_cases drops : k.dropsConstraint = true
  · rw [if_pos drops, if_pos drops]
    rw [Change.dropsConstraint, Bool.and_eq_true, constrained, Option.isSome_iff_exists] at drops
    obtain ⟨⟨e, rfl⟩, -⟩ := drops
    rw [← named e rfl]
    exact carries_dropDefault name hi
  · rw [if_neg drops, if_neg drops, set_eq_self hi]
    exact carries_nil c

/-- Then it is redefined, if it has to be. By now no default constraint depends on it. -/
theorem carries_redefinition (redefined : d.redefinition table k = .ok ss) (name : c.name = table)
    (hi : c.rows i = some ⟨k.after.name, a, default⟩)
    (bare : k.altersDefinition = true → default = none) :
    ∃ b, Carries ss c (c.set i (some ⟨k.after.name, b, default⟩)) ∧
      if k.altersDefinition then
        ∃ declaration, d.declare k.after = .ok declaration ∧
          b = { declaration.attributes with identity := a.identity }
      else b = a := by
  rw [Dialect.redefinition_eq_ok_iff] at redefined
  by_cases alters : k.altersDefinition = true
  · rw [if_pos alters] at redefined
    obtain ⟨declaration, declared, rfl⟩ := redefined
    rw [← Dialect.name_of_declare declared] at hi ⊢
    cases bare alters
    refine ⟨_, carries_alterColumn name hi, ?_⟩
    rw [if_pos alters]
    exact ⟨declaration, declared, rfl⟩
  · rw [if_neg alters] at redefined
    subst redefined
    refine ⟨a, ?_, by rw [if_neg alters]⟩
    rw [set_eq_self hi]
    exact carries_nil c

/-- At last it gets its default, if that has to be added. -/
theorem carries_default (defaulted : d.defaultStatement table k.after k.addedDefault? = .ok ss)
    (name : c.name = table) (hi : c.rows i = some ⟨k.after.name, a, default⟩)
    (bare : k.addedDefault? ≠ none → default = none)
    (unused : default = none → c.Unused (Sql.constraintName table k.after.name)) :
    ∃ default', Carries ss c (c.set i (some ⟨k.after.name, a, default'⟩)) ∧
      match k.addedDefault? with
      | none => default' = default
      | some value => ∃ literal, d.literal k.after.name value = .ok literal ∧
          default' = some ⟨Sql.constraintName table k.after.name, literal⟩ := by
  rw [Dialect.defaultStatement_eq_ok_iff] at defaulted
  cases hk : k.addedDefault? with
  | none =>
    rw [hk] at defaulted
    subst defaulted
    refine ⟨default, ?_, rfl⟩
    rw [set_eq_self hi]
    exact carries_nil c
  | some value =>
    rw [hk] at defaulted bare
    obtain ⟨literal, hl, rfl⟩ := defaulted
    cases bare (by simp)
    exact ⟨_, carries_addDefault name hi (unused rfl), literal, hl, rfl⟩

end Change

/-- **The statements of a change**: they rename the column, take its default constraint away,
redefine it and give it its default, as far as the change asks for it. Its new name has to be free,
and no other column may have the constraint that is named after it. -/
theorem carries_steps (emits : d.changeStatements table k = .ok ss) (name : c.name = table)
    (hi : c.rows i = some old) (finds : k.Finds table old)
    (free : k.renames = true → c.Free k.after.name)
    (unused : c.UnusedBut i (Sql.constraintName table k.after.name))
    (kept : k.renames = false → k.after.name = k.oldName) :
    ∃ new, Carries ss c (c.set i (some new)) ∧ d.MakesChanged table k old new := by
  obtain ⟨n, a, default⟩ := old
  obtain ⟨rfl, constrained, named⟩ := finds
  obtain ⟨redefine, add, redefined, defaulted, rfl⟩ := Dialect.changeStatements_eq_ok_iff.1 emits
  have renamed := carries_rename name hi free kept
  have dropped := carries_drop (c := c.set i (some ⟨k.after.name, a, default⟩)) name
    (rows_set_self ..) constrained named
  rw [set_set] at dropped
  -- what is left of the default while the column is redefined
  generalize hleft : (if k.dropsConstraint then none else default) = left at dropped
  have bare (h : k.altersDefinition = true ∨ k.addedDefault? ≠ none) : left = none := by
    subst hleft
    split
    · rfl
    · next kept =>
      rw [Change.hasConstraint_eq_false h (by simpa using kept)] at constrained
      simpa using constrained.symm
  obtain ⟨b, redefined, hb⟩ := carries_redefinition (c := c.set i (some ⟨k.after.name, a, left⟩))
    redefined name (rows_set_self ..) fun h => bare (.inl h)
  rw [set_set] at redefined
  have unused (h : left = none) :
      (c.set i (some ⟨k.after.name, b, left⟩)).Unused (Sql.constraintName table k.after.name) :=
    unused.set fun row e hr he => by
      cases hr
      cases h.symm.trans he
  obtain ⟨final, added, hf⟩ := carries_default (c := c.set i (some ⟨k.after.name, b, left⟩))
    defaulted name (rows_set_self ..) (fun h => bare (.inr h)) unused
  rw [set_set] at added
  subst hleft
  exact ⟨⟨k.after.name, b, final⟩, ((renamed.append dropped).append redefined).append added,
    rfl, hb, hf⟩

/-- The default constraint that a change leaves has its old name or the new one. -/
theorem constraint_name_of_makesChanged {new : Row} (made : d.MakesChanged table k old new)
    (finds : k.Finds table old) {e : DefaultConstraint} (he : new.default = some e) :
    e.name = Sql.constraintName table k.oldName ∨
      e.name = Sql.constraintName table k.after.name := by
  have default := made.default
  cases hk : k.addedDefault? with
  | none =>
    rw [hk] at default
    simp only [default] at he
    split at he
    · cases he
    · exact .inl (finds.named e he)
  | some value =>
    rw [hk] at default
    obtain ⟨literal, -, default⟩ := default
    cases default.symm.trans he
    exact .inr rfl

/-- **The statements of a reduced change, with traced names.** These are free for the change, and
can be traced back after it. -/
theorem carries_change (emits : d.changeStatements table k = .ok ss) (name : c.name = table)
    (traced : c.Traced home names) (distinct : Set.InjOn Checksum.hash names)
    (hi : c.rows i = some old) (finds : k.Finds table old)
    (before : k.oldName ∈ names ∧ home k.oldName = i)
    (after : k.after.name ∈ names ∧ home k.after.name = i)
    (kept : k.renames = false → k.after.name = k.oldName) :
    ∃ new, Carries ss c (c.set i (some new)) ∧ (c.set i (some new)).Traced home names ∧
      d.MakesChanged table k old new := by
  subst name
  have free (renames : k.renames = true) : c.Free k.after.name := traced.free fun row hr => by
    rw [after.2, hi] at hr
    cases hr
    simp only [Change.renames, Bool.and_eq_true, bne_iff_ne] at renames
    rw [finds.name]
    exact renames.2
  obtain ⟨new, carried, made⟩ := carries_steps emits rfl hi finds free
    (after.2 ▸ traced.unusedBut distinct after.1) kept
  refine ⟨new, carried, traced.set fun row hr => ?_, made⟩
  cases hr
  refine ⟨made.name ▸ after.2, fun e he => ?_⟩
  rcases constraint_name_of_makesChanged made finds he with named | named
  · exact ⟨k.oldName, before.1, before.2, named⟩
  · exact ⟨k.after.name, after.1, after.2, named⟩

end Catalog

end TsqlAlter
