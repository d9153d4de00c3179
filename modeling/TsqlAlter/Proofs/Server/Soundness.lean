import TsqlAlter.Proofs.Server.Catalog

/-!
# Sound tables

On the server a default constraint depends on a column that is there, and a column has one at most.
A table is sound if this holds of it, whatever its default constraints are called. Each statement
that is executed keeps a table sound, so every table that statements make of a sound one is sound.
A new table has neither columns nor constraints, so whatever is built from one is sound.

Results:
* `Sound.exec`, `Sound.execAll`: statements keep a table sound.
* `sound_of_execAll`: every table that statements build from a new one is sound.
* `Sound.lists_catalogWith`: a sound table can be listed column by column.
* `WellNamed.sound`: tables with well-named default constraints are sound.

Left out: names. A sound table may call its default constraints as it likes.
-/

namespace TsqlAlter

open Std (ExtTreeMap)

namespace Table

variable {t u : Table} {n m : String} {a : Attributes} {d : DefaultConstraint}

/-- **Every default constraint depends on a column that is there, and no column has two.** -/
structure Sound (t : Table) : Prop where
  present (k : String) (e : ColumnDefault) : t.constraints[k]? = some e → e.column ∈ t.columns
  single (k k' : String) (e e' : ColumnDefault) : t.constraints[k]? = some e →
    t.constraints[k']? = some e' → e.column = e'.column → k = k'

theorem WellNamed.sound (h : t.WellNamed) : t.Sound where
  present k e he := (h k e he).1
  single k k' e e' he he' same := by rw [(h k e he).2, (h k' e' he').2, same]

/-- A new table has no columns. -/
theorem sound_empty (name : String) : Sound { name := name } where
  present k e he := by simp at he
  single k k' e e' he := by simp at he

theorem hasDefault_eq_false_iff :
    t.hasDefault n = false ↔
      ∀ (k : String) (e : ColumnDefault), t.constraints[k]? = some e → e.column ≠ n := by
  rw [← Bool.not_eq_true, hasDefault_iff]
  simp only [not_exists, not_and, ne_eq]

/-- No default constraint depends on a column that is not there. -/
theorem Sound.hasDefault_eq_false (h : t.Sound) (absent : n ∉ t.columns) :
    t.hasDefault n = false :=
  hasDefault_eq_false_iff.2 fun k e he same => absent (same ▸ h.present k e he)

/-! ## What statements change -/

theorem Sound.setColumn (h : t.Sound) (n : String) (a : Attributes) : (t.setColumn n a).Sound where
  present k e he := ExtTreeMap.mem_insert.2 (.inr (h.present k e he))
  single := h.single

theorem Sound.dropColumn (h : t.Sound) (bare : t.hasDefault n = false) :
    (t.dropColumn n).Sound where
  present k e he := by
    have other := hasDefault_eq_false_iff.1 bare k e he
    have there := h.present k e he
    simp only [Table.dropColumn]
    grind
  single := h.single

theorem Sound.setDefault (h : t.Sound) (there : n ∈ t.columns) (bare : t.hasDefault n = false)
    (d : DefaultConstraint) : (t.setDefault n d).Sound where
  present k e he := by
    simp only [Table.setDefault, ExtTreeMap.getElem?_insert] at he
    split at he
    · cases he
      exact there
    · exact h.present k e he
  single k k' e e' he he' same := by
    have other := hasDefault_eq_false_iff.1 bare
    have single := h.single k k' e e'
    simp only [Table.setDefault] at he he'
    grind

theorem Sound.dropDefault (h : t.Sound) (k : String) : (t.dropDefault k).Sound := by
  have left {k' : String} {e : ColumnDefault} (he : (t.dropDefault k).constraints[k']? = some e) :
      t.constraints[k']? = some e := by
    simp only [Table.dropDefault] at he
    grind
  exact ⟨fun k' e he => h.present k' e (left he), fun i j e e' he he' same =>
    h.single i j e e' (left he) (left he') same⟩

theorem Sound.renameColumn (h : t.Sound) (free : m ∉ t.columns) (n : String) (a : Attributes) :
    (t.renameColumn n m a).Sound := by
  have old {k : String} {e : ColumnDefault}
      (he : (t.renameColumn n m a).constraints[k]? = some e) :
      e.column = m ∧ t.constraints[k]? = some ⟨n, e.literal⟩ ∨
        e.column ≠ n ∧ e.column ≠ m ∧ t.constraints[k]? = some e := by
    rcases column_renameColumn.1 he with renamed | ⟨other, kept⟩
    · exact .inl renamed
    · exact .inr ⟨other, fun same => free (same ▸ h.present k e kept), kept⟩
  constructor
  · intro k e he
    simp only [Table.renameColumn]
    rcases old he with ⟨same, -⟩ | ⟨other, -, kept⟩
    · grind
    · have there := h.present k e kept
      grind
  · intro k k' e e' he he' same
    rcases old he with ⟨new, renamed⟩ | ⟨-, other, kept⟩ <;>
      rcases old he' with ⟨new', renamed'⟩ | ⟨-, other', kept'⟩
    · exact h.single k k' _ _ renamed renamed' rfl
    · exact absurd (same.symm.trans new) other'
    · exact absurd (same.trans new') other
    · exact h.single k k' e e' kept kept' same

/-- **A statement keeps a table sound.** -/
theorem Sound.exec (h : t.Sound) {s : Statement} (executed : s.exec t = some u) : u.Sound := by
  cases s with
  | addColumn table column default =>
    rw [Statement.exec, Option.ite_none_right_eq_some] at executed
    obtain ⟨guard, executed⟩ := executed
    have added := h.setColumn column.name column.attributes
    cases default with
    | none =>
      cases executed
      exact added
    | some d =>
      obtain ⟨-, executed⟩ := Option.ite_none_right_eq_some.1 executed
      cases executed
      exact added.setDefault (by simp [Table.setColumn]) (h.hasDefault_eq_false guard.2) d
  | dropColumn table column =>
    rw [Statement.exec, Option.ite_none_right_eq_some] at executed
    obtain ⟨guard, ⟨⟩⟩ := executed
    exact h.dropColumn guard.2.2
  | alterColumn table column =>
    rw [Statement.exec, Option.ite_none_right_eq_some] at executed
    obtain ⟨a, -, rfl⟩ := Option.map_eq_some_iff.1 executed.2
    exact h.setColumn ..
  | addDefault table d column =>
    rw [Statement.exec, Option.ite_none_right_eq_some] at executed
    obtain ⟨guard, ⟨⟩⟩ := executed
    exact h.setDefault guard.2.1 guard.2.2.1 d
  | dropDefault table constraint =>
    rw [Statement.exec, Option.ite_none_right_eq_some] at executed
    obtain ⟨-, ⟨⟩⟩ := executed
    exact h.dropDefault constraint
  | dropDefaultIfExists table constraint =>
    rw [Statement.exec, Option.ite_none_right_eq_some] at executed
    obtain ⟨-, ⟨⟩⟩ := executed
    exact h.dropDefault constraint
  | renameColumn table oldName newName =>
    rw [Statement.exec, Option.ite_none_right_eq_some] at executed
    obtain ⟨guard, executed⟩ := executed
    obtain ⟨a, -, rfl⟩ := Option.map_eq_some_iff.1 executed
    exact h.renameColumn guard.2 oldName a
  | renameTable oldName newName =>
    rw [Statement.exec, Option.ite_none_right_eq_some] at executed
    obtain ⟨-, ⟨⟩⟩ := executed
    exact ⟨h.present, h.single⟩
  | verbatim sql => cases executed

/-- **So do all statements of a run.** -/
theorem Sound.execAll (h : t.Sound) {ss : List Statement} (executed : t.execAll ss = some u) :
    u.Sound := by
  induction ss generalizing t with
  | nil =>
    cases executed
    exact h
  | cons s more ih =>
    obtain ⟨v, first, rest⟩ := Option.bind_eq_some_iff.1 executed
    exact ih (h.exec first) rest

/-- **Every table that statements build from a new one is sound**, whatever the statements are. -/
theorem sound_of_execAll {name : String} {ss : List Statement}
    (built : execAll { name := name } ss = some u) : u.Sound :=
  (sound_empty name).execAll built

/-! ## The columns of a sound table -/

/-- The default constraint that depends on a column, if there is one. -/
def default? (t : Table) (n : String) : Option DefaultConstraint :=
  (t.constraints.toList.find? fun e => e.2.column == n).map fun e => ⟨e.1, e.2.literal⟩

theorem Sound.default?_eq_some_iff (h : t.Sound) :
    t.default? n = some d ↔ t.constraints[d.name]? = some ⟨n, d.literal⟩ := by
  unfold Table.default?
  rw [Option.map_eq_some_iff]
  constructor
  · rintro ⟨⟨k, e⟩, found, rfl⟩
    have column : e.column = n := by simpa using List.find?_some found
    subst column
    exact ExtTreeMap.mem_toList_iff_getElem?_eq_some.1 (List.mem_of_find?_eq_some found)
  · intro held
    have listed := ExtTreeMap.mem_toList_iff_getElem?_eq_some.2 held
    cases found : t.constraints.toList.find? fun e => e.2.column == n with
    | none => simpa using List.find?_eq_none.1 found _ listed
    | some e =>
      obtain ⟨k, e⟩ := e
      have column : e.column = n := by simpa using List.find?_some found
      have held' := ExtTreeMap.mem_toList_iff_getElem?_eq_some.1 (List.mem_of_find?_eq_some found)
      cases h.single _ _ _ _ held' held column
      cases held.symm.trans held'
      exact ⟨_, rfl, rfl⟩

/-- **A sound table can be listed column by column.** -/
theorem Sound.lists_catalogWith (h : t.Sound) : (t.catalogWith t.default?).Lists t :=
  Table.lists_catalogWith h.present fun _ _ => h.default?_eq_some_iff

end Table

end TsqlAlter
