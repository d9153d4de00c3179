import TsqlAlter.Proofs.Server.Runs

/-!
# Two compilers, one table

A platform and the plain compiler of its release write different statements for a diff. The platform
adds a column with its default at once, the plain compiler adds the default afterwards; the platform
leaves out a new type that the server does not tell from the old one, the plain compiler redefines
the column and on the way takes its default constraint down and puts it up again. Both lists of
statements are executed, and both lead to a table that realizes the columns after the diff. Without
floating-point defaults there is one such table: the two zeros would have two literals.

Results:
* `Realizes.unique`: columns without floating-point defaults are realized by one table.
* `carries_additionStatements`: a column and then its default, as if added at once.
* `exists_stepwise`: the statements of the plain compiler are executed, and what they make.
* `exists_common_outcome`: platform and plain compiler end in the same table.

Left out: the order in which the two lists of statements get there, and the tables on the way.
-/

namespace TsqlAlter

open Std (ExtTreeMap)

variable {r : Release} {d : TableDiff} {cols : Columns} {t u : Table} {ss : List Statement}

namespace Table

/-! ## One table for the columns -/

variable (exact : ∀ (n : String) (x : Column), cols[n]? = some x → x.HasExactDefault)

theorem Realizes.columns_eq (h : t.Realizes r cols) (h' : u.Realizes r cols) :
    t.columns = u.columns := by
  refine ExtTreeMap.ext_getElem? fun n => ?_
  have here := h.columns n
  have there := h'.columns n
  cases hx : cols[n]? with
  | none =>
    rw [hx] at here there
    rw [eq_none_of_rel_none here, eq_none_of_rel_none there]
  | some x =>
    rw [hx] at here there
    obtain ⟨a, ha, -, declaration, declared, rfl⟩ := exists_of_rel_some here
    obtain ⟨a', ha', -, declaration', declared', rfl⟩ := exists_of_rel_some there
    rw [declared] at declared'
    cases declared'
    rw [ha, ha']

include exact in
/-- A default constraint of one table is one of the other: the column needs it, and both give it the
name and the literal that it has to have. -/
theorem Realizes.getElem?_constraints (h : t.Realizes r cols) (h' : u.Realizes r cols)
    (name : t.name = u.name) {k : String} {e : ColumnDefault} (he : t.constraints[k]? = some e) :
    u.constraints[k]? = some e := by
  obtain ⟨hk, x, v, hx, hv, literal⟩ := h.constraints k e he
  have held : u.hasDefault e.column = true := by
    rw [h'.defaults _ _ hx, Column.hasConstraint, hv]
    rfl
  obtain ⟨k', e', he', column⟩ := hasDefault_iff.1 held
  obtain ⟨hk', y, w, hy, hw, literal'⟩ := h'.constraints k' e' he'
  rw [column] at hk' hy
  cases hx.symm.trans hy
  cases hv.symm.trans hw
  have plain : v.isFloat = false := by
    refine exact _ x hx v ?_
    unfold Column.constrainedDefault? at hv
    split at hv
    · cases hv
    · exact hv
  have same : e' = e := by
    obtain ⟨n, l⟩ := e
    obtain ⟨n', l'⟩ := e'
    cases column
    exact congrArg (ColumnDefault.mk n)
      (DefaultValue.literal_eq_of_hasLiteral plain literal' literal)
  rw [hk, name, ← hk', he', same]

include exact in
/-- **Columns without floating-point defaults are realized by one table** of a name. -/
theorem Realizes.unique (h : t.Realizes r cols) (h' : u.Realizes r cols) (name : t.name = u.name) :
    t = u := by
  have constraints : t.constraints = u.constraints := by
    refine ExtTreeMap.ext_getElem? fun k => Option.ext fun e => ?_
    exact ⟨h.getElem?_constraints exact h' name, h'.getElem?_constraints exact h name.symm⟩
  obtain ⟨n, columns, _⟩ := t
  obtain ⟨n', columns', _⟩ := u
  cases name
  cases h.columns_eq h'
  cases constraints
  rfl

end Table

/-! ## The plain compiler, entry by entry -/

namespace Dialect

variable {d : Dialect} {diff : TableDiff} {table : String} {x : Column}

/-- The two steps of adding a column. -/
theorem additionStatements_eq_ok_iff :
    d.additionStatements table x = .ok ss ↔
      ∃ declaration default, d.declare x = .ok declaration ∧
        d.defaultStatement table x x.constrainedDefault? = .ok default ∧
        ss = .addColumn table declaration none :: default := by
  constructor
  · intro h
    obtain ⟨declaration, declared, h⟩ := bind_eq_ok_iff.1 h
    obtain ⟨default, defaulted, h⟩ := bind_eq_ok_iff.1 h
    cases h
    exact ⟨declaration, default, declared, defaulted, rfl⟩
  · rintro ⟨declaration, default, declared, defaulted, rfl⟩
    exact bind_eq_ok_iff.2 ⟨declaration, declared, bind_eq_ok_iff.2 ⟨default, defaulted, rfl⟩⟩

/-- The statements of the plain compiler: the added columns, the removed ones, the changes, the
renamed columns, the table's name. -/
theorem exists_parts_of_stepwise (h : d.stepwise diff = .ok ss) :
    ∃ additions changes,
      List.Forall₂ (fun x part => d.additionStatements diff.name x = .ok part) diff.added
        additions ∧
      List.Forall₂ (fun x part => d.changeStatements diff.name x = .ok part) diff.changed changes ∧
      ss = additions.flatten ++ removals diff ++ changes.flatten ++ columnRenames diff ++
        tableRename diff := by
  obtain ⟨added, ha, h⟩ := bind_eq_ok_iff.1 h
  obtain ⟨changed, hc, h⟩ := bind_eq_ok_iff.1 h
  cases h
  rw [forEach_changeStatements_filter] at hc
  obtain ⟨additions, adds, rfl⟩ := forEach_eq_ok_iff.1 ha
  obtain ⟨changes, emits, rfl⟩ := forEach_eq_ok_iff.1 hc
  exact ⟨additions, changes, adds, emits, rfl⟩

end Dialect

/-! ## What the plain compiler does to a table -/

namespace Catalog

variable {c : Catalog} {table : String} {x : Column} {dialect : Dialect} {home : String → String}
  {names : Set String}

/-- **A column, and then its default.** The row is the one that a column added with its default
would have. -/
theorem carries_additionStatements (emits : dialect.additionStatements table x = .ok ss)
    (name : c.name = table) (traced : c.Traced home names)
    (distinct : Set.InjOn Checksum.hash names) (hx : x.name ∈ names) (own : home x.name = x.name)
    (absent : c.rows x.name = none) :
    ∃ new, Carries ss c (c.set x.name (some new)) ∧
      (c.set x.name (some new)).Traced home names ∧ dialect.MakesAdded table x new := by
  obtain ⟨declaration, default, declared, defaulted, rfl⟩ :=
    Dialect.additionStatements_eq_ok_iff.1 emits
  have same := Dialect.name_of_declare declared
  have free : c.Free declaration.name := by
    rw [same]
    refine traced.free fun row hr => ?_
    rw [own, absent] at hr
    cases hr
  have added : Carries [.addColumn table declaration none] c
      (c.set x.name (some ⟨declaration.name, declaration.attributes, none⟩)) :=
    carries_addColumn name free absent (by simp)
  have traced_bare : (c.set x.name (some ⟨declaration.name, declaration.attributes, none⟩)).Traced
      home names := traced.set fun row hr => by
    cases hr
    exact ⟨by rw [same, own], by simp⟩
  rw [Dialect.defaultStatement_eq_ok_iff] at defaulted
  cases hv : x.constrainedDefault? with
  | none =>
    rw [hv] at defaulted
    subst defaulted
    exact ⟨_, added, traced_bare, same, ⟨declaration, declared, rfl⟩, by rw [hv]⟩
  | some value =>
    rw [hv] at defaulted
    obtain ⟨literal, hl, rfl⟩ := defaulted
    rw [same] at added traced_bare
    have unused := traced_bare.unused distinct hx fun row hr => by
      rw [own, rows_set_self] at hr
      cases hr
      rfl
    have set : (c.set x.name (some ⟨x.name, declaration.attributes, none⟩)).name = table := name
    rw [set] at unused
    have finished := carries_addDefault (c := c.set x.name _)
      (d := ⟨Sql.constraintName table x.name, literal⟩) name (rows_set_self c x.name _) unused
    rw [set_set] at finished
    refine ⟨_, added.append finished, traced.set fun row hr => ?_, rfl,
      ⟨declaration, declared, rfl⟩, ?_⟩
    · cases hr
      exact ⟨own, fun e he => ⟨x.name, hx, own, by cases he; rw [name]⟩⟩
    · rw [hv]
      exact ⟨literal, hl, rfl⟩

/-- All columns are added, each with its default before the next. -/
theorem carries_separateAdditions (suits : d.Suits t)
    (distinct : Set.InjOn Checksum.hash (d.columnNames t)) (name : c.name = d.name)
    (traced : c.Traced d.home (d.columnNames t)) {additions : List (List Statement)}
    (adds : List.Forall₂ (fun x part => r.dialect.additionStatements d.name x = .ok part) d.added
      additions)
    (absent : ∀ x ∈ d.added, c.rows x.name = none) :
    ∃ c', Carries additions.flatten c c' ∧ c'.name = d.name ∧
      c'.Traced d.home (d.columnNames t) ∧
      (∀ i, i ∉ d.added.map Column.name → c'.rows i = c.rows i) ∧
      ∀ x ∈ d.added, ∃ new, c'.rows x.name = some new ∧ r.dialect.MakesAdded d.name x new := by
  refine exists_carries_of_forall₂ Column.name (fun _ row => row = none)
    (fun x _ row => ∃ new, row = some new ∧ r.dialect.MakesAdded d.name x new) adds ?_
    (List.nodup_append.1 suits.new_nodup).1 name traced absent
  intro x hx part c emits name traced absent
  have given : x.name ∈ d.columnNames t := .inr (List.mem_append_left _ (List.mem_map_of_mem hx))
  obtain ⟨new, carried, traced, made⟩ := carries_additionStatements emits name traced distinct given
    (suits.home_of_mem_added hx) absent
  exact ⟨some new, carried, traced, new, rfl, made⟩

end Catalog

namespace Table

/-- **The statements of the plain compiler are executed**, and lead to a table that realizes the
columns after the diff. Nothing would drop the default constraint of a removed column, so there must
be none. -/
theorem Realizes.exists_stepwise (realized : t.Realizes r cols) (fits : d.Fits t.name cols)
    (distinct : Set.InjOn Checksum.hash (Columns.names cols [d]))
    (bare : ∀ x ∈ d.removed, x.hasConstraint = false)
    (compiled : r.dialect.stepwise d = .ok ss) :
    ∃ u, t.execAll ss = some u ∧ u.name = t.name ∧ u.Realizes r (d.applyTo cols) := by
  have suits := fits.suits realized rfl
  have wellNamed := realized.wellNamed
  have distinct := distinct.mono (fits.columnNames_subset realized)
  obtain ⟨additions, changes, adds, emits, rfl⟩ := Dialect.exists_parts_of_stepwise compiled
  have absent (x) (hx : x ∈ d.added) : t.catalog.rows x.name = none := by
    have hx := suits.absent x.name (List.mem_append_left _ (List.mem_map_of_mem hx))
    simp [Table.catalog, Table.catalogWith, ExtTreeMap.getElem?_eq_none hx]
  obtain ⟨c₁, carried₁, name₁, traced₁, others₁, added⟩ :=
    Catalog.carries_separateAdditions suits distinct fits.name.symm suits.traced_catalog adds absent
  obtain ⟨c₂, carried₂, name₂, traced₂, others₂, removed⟩ :=
    Catalog.carries_removals suits name₁ traced₁ fun x hx => by
      have old := TableDiff.mem_oldNames_of_removed hx
      obtain ⟨a, default, row, held, -⟩ := suits.exists_row wellNamed old
      rw [← suits.removed x hx, bare x hx] at held
      cases default with
      | none => exact ⟨a, (others₁ _ (suits.notMem_added old)).trans row⟩
      | some e => cases held
  obtain ⟨c₃, carried₃, name₃, traced₃, others₃, changed, -⟩ :=
    suits.exists_altered (fun x k (e : k = x) => e ▸ x.standsFor_self) wellNamed distinct name₂
      traced₂
      (fun n old hn => (others₂ n hn).trans (others₁ n (suits.notMem_added old)))
      (emits.imp fun x part h => ⟨x, rfl, h⟩)
  obtain ⟨u, executed, lists⟩ :=
    ((carried₁.append carried₂).append carried₃) t wellNamed.lists_catalog
  have name : u.name = t.name := by rw [lists.name, name₃, fits.name]
  have untitled : Dialect.tableRename d = [] := by simp [Dialect.tableRename, fits.newName]
  refine ⟨u, ?_, name, realized.applyTo_of_rows fits lists name (fun x hx => ?_) (fun x hx => ?_)
    (fun x hx => ?_) fun n mentioned => ?_⟩
  · rw [untitled]
    simpa only [List.append_assoc, List.append_nil] using executed
  · have away : x.name ∉ d.oldNames := fun old =>
      suits.notMem_added old (List.mem_map_of_mem hx)
    simp only [TableDiff.oldNames, List.mem_append, not_or] at away
    rw [others₃ _ away.1.2 away.2, others₂ _ away.1.1]
    exact added x hx
  · have hn := List.mem_map_of_mem (f := Column.name) hx
    have disjoint := suits.old_disjoint x.name
    exact (others₃ _ (fun hm => disjoint.1 ⟨hn, hm⟩) fun hm => disjoint.2.1 ⟨hn, hm⟩).trans
      (removed x hx)
  · obtain ⟨k, old, new, rfl, found, row, made⟩ := changed x hx
    refine ⟨_, old, new, ?_, found, row, made⟩
    have between := (fits.of_mem_changed hx).2.2.1
    rw [between]
    exact r.leads_between _ _
  · have away : n ∉ d.oldNames := by
      rw [fits.oldNames_eq]
      exact fun old => mentioned (List.mem_append_right _ old)
    simp only [TableDiff.oldNames, List.mem_append, not_or] at away
    rw [others₃ _ away.1.2 away.2, others₂ _ away.1.1,
      others₁ _ fun added => mentioned (List.mem_append_left _ added)]

/-- The columns after a diff have no floating-point defaults if those before it and those it holds
have none. -/
theorem exact_applyTo {table : String} (fits : d.Fits table cols)
    (exact : ∀ (n : String) (x : Column), cols[n]? = some x → x.HasExactDefault)
    (held : ∀ x ∈ d.columns, x.HasExactDefault) (n : String) (x : Column)
    (hx : (d.applyTo cols)[n]? = some x) : x.HasExactDefault := by
  by_cases mentioned : n ∈ d.mentioned
  · rcases List.mem_append.1 mentioned with hn | hn
    · obtain ⟨y, hy, rfl⟩ := List.mem_map.1 hn
      cases (fits.getElem?_applyTo_of_added hy).symm.trans hx
      exact held _ (TableDiff.mem_columns_of_added hy)
    · rcases List.mem_append.1 hn with hn | hn
      · obtain ⟨y, hy, rfl⟩ := List.mem_map.1 hn
        cases (fits.getElem?_applyTo_of_removed hy).symm.trans hx
      · obtain ⟨k, hk, rfl⟩ := List.mem_map.1 hn
        cases (fits.getElem?_applyTo_of_changed hk).symm.trans hx
        exact held _ (TableDiff.mem_columns_of_changed hk).2
  · exact exact n x ((fits.getElem?_applyTo_of_notMem mentioned).symm.trans hx)

/-- **Two compilers, one table.** The table realizes columns, the diff fits them and removes no
column with a default, no two columns involved share a checksum, and no default is a floating-point
value. If the platform of a release and its plain compiler both compile the diff, the statements of
either are executed, and both end in the same table, which realizes the columns after the diff. -/
theorem Realizes.exists_common_outcome {ss' : List Statement} (realized : t.Realizes r cols)
    (fits : d.Fits t.name cols) (distinct : Set.InjOn Checksum.hash (Columns.names cols [d]))
    (exact : ∀ (n : String) (x : Column), cols[n]? = some x → x.HasExactDefault)
    (held : ∀ x ∈ d.columns, x.HasExactDefault) (bare : ∀ x ∈ d.removed, x.hasConstraint = false)
    (compiled : (Platform.ofRelease r).compile d = .ok ss)
    (compiled' : r.dialect.stepwise d = .ok ss') :
    ∃ u, t.execAll ss = some u ∧ t.execAll ss' = some u ∧ u.Realizes r (d.applyTo cols) := by
  obtain ⟨u, executed, name, realizes⟩ := realized.exists_applyTo fits distinct compiled
  obtain ⟨u', executed', name', realizes'⟩ := realized.exists_stepwise fits distinct bare compiled'
  have same : u = u' := realizes.unique (exact_applyTo fits exact held) realizes'
    (name.trans name'.symm)
  exact ⟨u, executed, same ▸ executed', realizes⟩

/-- Columns added to a table without any. -/
def notes : TableDiff where
  name := "orders"
  added := [{ name := "note", type := .text, default := some (.string "none") },
    { name := "legacy", type := .integer }]

/-- The added column has a default; the new type of the changed one is the same on the server. -/
def migrate : TableDiff where
  name := "orders"
  added := [{ name := "amount", type := .integer, nullable := false, default := some (.integer 0) }]
  removed := [{ name := "legacy", type := .integer }]
  changed := [.between { name := "note", type := .text, default := some (.string "none") }
    { name := "note", type := .json, default := some (.string "none") }]

/-- The statements differ, the tables do not. -/
theorem Realizes.exists_common_outcome_migrate :
    ∃ (t u : Table) (ss ss' : List Statement),
    t.Realizes .sql2008 (notes.applyTo ∅) ∧ migrate.Fits t.name (notes.applyTo ∅) ∧
      (Platform.ofRelease .sql2008).compile migrate = .ok ss ∧
      Release.sql2008.dialect.stepwise migrate = .ok ss' ∧ ss ≠ ss' ∧
      t.execAll ss = some u ∧ t.execAll ss' = some u ∧
      u.Realizes .sql2008 (migrate.applyTo (notes.applyTo ∅)) := by
  have fits : notes.Fits "orders" ∅ :=
    ⟨rfl, rfl, rfl, by decide, by decide, by decide, by simp [notes]⟩
  have fits' : migrate.Fits "orders" (notes.applyTo ∅) := by
    refine ⟨rfl, rfl, rfl, by decide, by decide +kernel, by decide +kernel, ?_⟩
    simp only [migrate, List.mem_singleton, forall_eq]
    exact ⟨_, _, rfl, by decide +kernel⟩
  have exact (n : String) (x : Column) (hx : (notes.applyTo ∅)[n]? = some x) : x.HasExactDefault :=
    exact_applyTo fits (by simp) (by decide +kernel) n x hx
  let all := Columns.names ∅ [notes] ∪ Columns.names (notes.applyTo ∅) [migrate]
  have added {n : String} (hn : ∃ x ∈ notes.added, x.name = n) :
      n ∈ ["note", "legacy", "amount"] := by
    obtain ⟨x, hx, rfl⟩ := hn
    revert x
    decide
  have three : all ⊆ {n | n ∈ ["note", "legacy", "amount"]} := by
    rintro n ((hn | ⟨d, hd, hn⟩) | (hn | ⟨d, hd, hn⟩))
    · simp at hn
    · cases List.mem_singleton.1 hd
      exact added hn
    · rcases fits.mem_of_mem_applyTo hn with hn | hn
      · simp at hn
      · exact added hn
    · cases List.mem_singleton.1 hd
      obtain ⟨x, hx, rfl⟩ := hn
      revert x
      decide
  have apart : (["note", "legacy", "amount"].map Checksum.hash).Nodup := by decide +kernel
  have distinct : Set.InjOn Checksum.hash all :=
    fun n hn m hm => List.inj_on_of_nodup_map apart (three hn) (three hm)
  have succeeded : failure? ((Platform.ofRelease .sql2008).compile notes) = none := by
    decide +kernel
  obtain ⟨ss₀, compiled₀⟩ := failure?_eq_none_iff.1 succeeded
  obtain ⟨t, -, name, realized⟩ := (realizes_empty .sql2008 "orders").exists_applyTo fits
    (distinct.mono Set.subset_union_left) compiled₀
  replace name : t.name = "orders" := name
  rw [← name] at fits'
  have succeeded : failure? ((Platform.ofRelease .sql2008).compile migrate) = none := by
    decide +kernel
  have succeeded' : failure? (Release.sql2008.dialect.stepwise migrate) = none := by
    decide +kernel
  obtain ⟨ss, compiled⟩ := failure?_eq_none_iff.1 succeeded
  obtain ⟨ss', compiled'⟩ := failure?_eq_none_iff.1 succeeded'
  obtain ⟨u, executed, executed', realizes⟩ := Realizes.exists_common_outcome realized fits'
    (distinct.mono Set.subset_union_right) exact (by decide +kernel) (by decide +kernel) compiled
    compiled'
  refine ⟨t, u, ss, ss', realized, fits', compiled, compiled', fun same => ?_, executed, executed',
    realizes⟩
  rw [same, ← compiled'] at compiled
  exact absurd compiled (by decide +kernel)

end Table

end TsqlAlter
