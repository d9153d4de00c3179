import TsqlAlter.Proofs.Failure
import TsqlAlter.Proofs.Server.Catalog
import TsqlAlter.Proofs.Sql.ConstraintName

/-!
# What statements do to a catalog

Statements carry one catalog to another if every table that the first one lists survives them and
is then listed by the second. Each statement has its law, and laws are put together by composition.

A name in use belongs to one column: a map tells the key of the column that has, had or will have a
name. As long as the names of columns and of default constraints can be traced back in this way, a
name that no row has under its key is free, and so is the constraint name made from it.

`Carries` is that notion. `Traced` says of a catalog that every name in it belongs to the key of its
row.

Results:
* `carries_addColumn`, `carries_dropColumn`, `carries_alterColumn`, `carries_addDefault`,
  `carries_dropDefault`, `carries_renameColumn`, `carries_renameTable`: the laws of the statements.
* `Traced.free`, `Traced.unused`: which names can still be given.
* `exists_carries_of_forall₂`: entries about different columns, one after the other.

Left out: statements that are refused. Each law asks for what its statement needs.
-/

namespace TsqlAlter

namespace Catalog

variable {c c' c'' : Catalog} {i n m table : String} {a : Attributes} {d : DefaultConstraint}
  {default : Option DefaultConstraint} {ss more : List Statement}

/-- **Statements carry a catalog to another**: on every table that the first one lists they are
executed, and the second one lists the result. -/
def Carries (ss : List Statement) (c c' : Catalog) : Prop :=
  ∀ t, c.Lists t → ∃ u, t.execAll ss = some u ∧ c'.Lists u

theorem carries_nil (c : Catalog) : Carries [] c c := fun t ht => ⟨t, rfl, ht⟩

theorem Carries.append (h : Carries ss c c') (h' : Carries more c' c'') :
    Carries (ss ++ more) c c'' := by
  intro t ht
  obtain ⟨u, hu, lists⟩ := h t ht
  obtain ⟨v, hv, lists⟩ := h' u lists
  refine ⟨v, ?_, lists⟩
  rw [Table.execAll_append, hu]
  exact hv

/-- A single statement. -/
theorem carries_singleton {s : Statement}
    (h : ∀ t, c.Lists t → ∃ u, s.exec t = some u ∧ c'.Lists u) : Carries [s] c c' := by
  intro t ht
  rw [Table.execAll_singleton]
  exact h t ht

/-! ## The laws of the statements -/

theorem carries_addColumn {column : Declaration} (name : c.name = table) (free : c.Free column.name)
    (hi : c.rows i = none) (unused : ∀ d, default = some d → c.Unused d.name) :
    Carries [.addColumn table column default] c
      (c.set i (some ⟨column.name, column.attributes, default⟩)) := by
  refine carries_singleton fun t ht => ?_
  have added := ht.addColumn (a := column.attributes) free hi
  rw [Statement.exec, if_pos ⟨ht.name.trans name, ht.notMem_columns free⟩]
  cases default with
  | none => exact ⟨_, rfl, added⟩
  | some d =>
    have unused := unused d rfl
    refine ⟨_, if_pos (ht.notMem_constraints unused), ?_⟩
    have unused' : (c.set i (some ⟨column.name, column.attributes, none⟩)).Unused d.name := by
      intro j row e hj he
      rw [rows_set] at hj
      split at hj
      · cases hj
        cases he
      · exact unused j row e hj he
    have defaulted := added.setDefault (rows_set_self ..) unused'
    rw [set_set] at defaulted
    exact defaulted

theorem carries_dropColumn (name : c.name = table) (hi : c.rows i = some ⟨n, a, none⟩) :
    Carries [.dropColumn table n] c (c.set i none) := by
  refine carries_singleton fun t ht => ⟨_, if_pos ⟨ht.name.trans name, ?_, ?_⟩, ht.dropColumn hi⟩
  · exact ht.mem_columns_iff.2 ⟨i, _, hi, rfl⟩
  · exact ht.hasDefault_eq hi

theorem carries_alterColumn {column : Declaration} (name : c.name = table)
    (hi : c.rows i = some ⟨column.name, a, none⟩) :
    Carries [.alterColumn table column] c
      (c.set i (some ⟨column.name, { column.attributes with identity := a.identity }, none⟩)) := by
  refine carries_singleton fun t ht => ⟨_, ?_, ht.redefineColumn hi⟩
  rw [Statement.exec, if_pos ⟨ht.name.trans name, ht.hasDefault_eq hi⟩, ht.getElem?_columns hi]
  rfl

theorem carries_addDefault (name : c.name = table) (hi : c.rows i = some ⟨n, a, none⟩)
    (unused : c.Unused d.name) :
    Carries [.addDefault table d n] c (c.set i (some ⟨n, a, some d⟩)) := by
  refine carries_singleton fun t ht =>
    ⟨_, if_pos ⟨ht.name.trans name, ?_, ?_, ?_⟩, ht.setDefault hi unused⟩
  · exact ht.mem_columns_iff.2 ⟨i, _, hi, rfl⟩
  · exact ht.hasDefault_eq hi
  · exact ht.notMem_constraints unused

theorem carries_dropDefault (name : c.name = table) (hi : c.rows i = some ⟨n, a, some d⟩) :
    Carries [.dropDefault table d.name] c (c.set i (some ⟨n, a, none⟩)) :=
  carries_singleton fun _ ht =>
    ⟨_, if_pos ⟨ht.name.trans name, ht.mem_constraints hi⟩, ht.dropDefault hi⟩

/-- Where the constraint is there, it does not matter whether the drop asks for it first. -/
theorem carries_dropDefaultIfExists (name : c.name = table) (hi : c.rows i = some ⟨n, a, some d⟩) :
    Carries [.dropDefaultIfExists table d.name] c (c.set i (some ⟨n, a, none⟩)) :=
  carries_singleton fun _ ht => ⟨_, if_pos (ht.name.trans name), ht.dropDefault hi⟩

theorem carries_renameColumn (name : c.name = table) (hi : c.rows i = some ⟨n, a, default⟩)
    (free : c.Free m) :
    Carries [.renameColumn table n m] c (c.set i (some ⟨m, a, default⟩)) := by
  refine carries_singleton fun t ht => ⟨_, ?_, ht.renameColumn hi free⟩
  rw [Statement.exec, if_pos ⟨ht.name.trans name, ht.notMem_columns free⟩, ht.getElem?_columns hi]
  rfl

theorem carries_renameTable (c : Catalog) (name : String) :
    Carries [.renameTable c.name name] c { c with name := name } :=
  carries_singleton fun _ ht => ⟨_, if_pos ht.name, ht.renameTable name⟩

/-! ## Names traced back to their columns -/

variable {home : String → String} {names : Set String}

/-- The names in a row, its own and that of its default constraint, belong to its key. -/
structure RowTraced (home : String → String) (names : Set String) (table i : String) (row : Row) :
    Prop where
  name : home row.name = i
  constraint (d : DefaultConstraint) : row.default = some d →
    ∃ o ∈ names, home o = i ∧ d.name = Sql.constraintName table o

/-- **Every name belongs to the key of its row.** -/
def Traced (home : String → String) (names : Set String) (c : Catalog) : Prop :=
  ∀ i row, c.rows i = some row → RowTraced home names c.name i row

theorem Traced.set (h : c.Traced home names) {new : Option Row}
    (traced : ∀ row, new = some row → RowTraced home names c.name i row) :
    (c.set i new).Traced home names := by
  intro j row hj
  rw [rows_set] at hj
  split at hj
  · next hji =>
    subst hji
    exact traced row hj
  · exact h j row hj

/-- A name is free if the row of its key has another. -/
theorem Traced.free (h : c.Traced home names)
    (other : ∀ row, c.rows (home n) = some row → row.name ≠ n) : c.Free n := by
  rintro i row hi rfl
  rw [← (h i row hi).name] at hi
  exact other row hi rfl

/-- The constraint name made from a name is used by the row of its key at most. -/
theorem Traced.unusedBut (h : c.Traced home names) (distinct : Set.InjOn Checksum.hash names)
    (hn : n ∈ names) : c.UnusedBut (home n) (Sql.constraintName c.name n) := by
  intro i row d other hi hd e
  obtain ⟨o, ho, hio, ho'⟩ := (h i row hi).constraint d hd
  have same : o = n := Sql.eq_of_constraintName distinct ho hn (ho'.symm.trans e)
  exact other (by rw [← hio, same])

/-- So it is unused if that row has no default. -/
theorem Traced.unused (h : c.Traced home names) (distinct : Set.InjOn Checksum.hash names)
    (hn : n ∈ names) (bare : ∀ row, c.rows (home n) = some row → row.default = none) :
    c.Unused (Sql.constraintName c.name n) :=
  (h.unusedBut distinct hn).unused fun row d hr hd => by
    rw [bare row hr] at hd
    cases hd

/-! ## Entries about different columns -/

/-- **Entries one after the other.** If each entry changes the row of its key and no other, then so
do all of them, and each finds its row as it was at the beginning. -/
theorem exists_carries_of_forall₂ {α : Type} {Emits : α → List Statement → Prop} {es : List α}
    {parts : List (List Statement)} (key : α → String) (Ready : α → Option Row → Prop)
    (Done : α → Option Row → Option Row → Prop) (emits : List.Forall₂ Emits es parts)
    (step : ∀ e ∈ es, ∀ part c, Emits e part → c.name = table → c.Traced home names →
      Ready e (c.rows (key e)) → ∃ new, Carries part c (c.set (key e) new) ∧
        (c.set (key e) new).Traced home names ∧ Done e (c.rows (key e)) new)
    (nodup : (es.map key).Nodup) (name : c.name = table) (traced : c.Traced home names)
    (ready : ∀ e ∈ es, Ready e (c.rows (key e))) :
    ∃ c', Carries parts.flatten c c' ∧ c'.name = table ∧ c'.Traced home names ∧
      (∀ i, i ∉ es.map key → c'.rows i = c.rows i) ∧
      ∀ e ∈ es, Done e (c.rows (key e)) (c'.rows (key e)) := by
  induction emits generalizing c with
  | nil => exact ⟨c, carries_nil c, name, traced, fun _ _ => rfl, by simp⟩
  | @cons e part es parts first _ ih =>
    rw [List.map_cons, List.nodup_cons] at nodup
    obtain ⟨fresh, nodup⟩ := nodup
    obtain ⟨new, carried, traced, done⟩ :=
      step e List.mem_cons_self part c first name traced (ready e List.mem_cons_self)
    have apart {e' : α} (he' : e' ∈ es) : key e' ≠ key e := fun same =>
      fresh (same ▸ List.mem_map_of_mem he')
    obtain ⟨c', carried', name', traced', others, dones⟩ :=
      ih (c := c.set (key e) new) (fun e' he' => step e' (List.mem_cons_of_mem _ he')) nodup name
        traced fun e' he' => by
          rw [rows_set_of_ne _ (apart he')]
          exact ready e' (List.mem_cons_of_mem _ he')
    refine ⟨c', carried.append carried', name', traced', fun i hi => ?_, fun e' he' => ?_⟩
    · rw [List.map_cons, List.mem_cons, not_or] at hi
      rw [others i hi.2, rows_set_of_ne _ hi.1]
    · rcases List.mem_cons.1 he' with rfl | he'
      · rw [others _ fresh, rows_set_self]
        exact done
      · have := dones e' he'
        rwa [rows_set_of_ne _ (apart he')] at this

/-- Entries of one statement each. -/
theorem exists_carries_of_forall₂_singleton {α : Type} {Emits : α → Statement → Prop}
    {es : List α} (key : α → String) (Ready : α → Option Row → Prop)
    (Done : α → Option Row → Option Row → Prop) (emits : List.Forall₂ Emits es ss)
    (step : ∀ e ∈ es, ∀ s c, Emits e s → c.name = table → c.Traced home names →
      Ready e (c.rows (key e)) → ∃ new, Carries [s] c (c.set (key e) new) ∧
        (c.set (key e) new).Traced home names ∧ Done e (c.rows (key e)) new)
    (nodup : (es.map key).Nodup) (name : c.name = table) (traced : c.Traced home names)
    (ready : ∀ e ∈ es, Ready e (c.rows (key e))) :
    ∃ c', Carries ss c c' ∧ c'.name = table ∧ c'.Traced home names ∧
      (∀ i, i ∉ es.map key → c'.rows i = c.rows i) ∧
      ∀ e ∈ es, Done e (c.rows (key e)) (c'.rows (key e)) := by
  have parts : List.Forall₂ (fun e part => ∃ s, Emits e s ∧ part = [s]) es (ss.map ([·])) :=
    List.forall₂_map_right_iff.2 (emits.imp fun e s h => ⟨s, h, rfl⟩)
  have flat : (ss.map ([·])).flatten = ss := List.flatMap_singleton' ss
  rw [← flat]
  refine exists_carries_of_forall₂ key Ready Done parts ?_ nodup name traced ready
  rintro e he part c ⟨s, hs, rfl⟩
  exact step e he s c hs

end Catalog

end TsqlAlter
