import TsqlAlter.Proofs.Compilation

/-!
# What makes no difference

Whether a column is unsigned cannot be said to the server, and an explicit null is the default that
a column has without one. The plain form of a diff has neither: no column in it is unsigned or has
an explicit null as its default, and no change concerns the sign. Changes may come with any tags, so
a plain change may concern nothing where the change concerned the sign alone.

Results:
* `changeStatements_plain`, `additionStatements_plain`, `inlineAddition_plain`: entries and their
  plain forms have the same statements.
* `reduce_plain`, `kept_plain`: what is left of the plain form is the plain form of what is left.
* `compile_plain_of_fallback`: so a platform does not tell them apart if its fallback does not.
* `compile_plain`: a diff and its plain form are compiled to the same statements, or fail alike.

Left out: fallbacks that tell a diff from its plain form. What they make of the two is up to them.
-/

namespace TsqlAlter

variable {r : Release} {table : String}

/-! ## Plain columns -/

namespace Column

/-- The column without its sign, and without a default where that is an explicit null. -/
def plain (c : Column) : Column :=
  { c with
    default := if c.default = some .null then none else c.default
    unsigned := false }

@[simp] theorem constrainedDefault?_plain (c : Column) :
    c.plain.constrainedDefault? = c.constrainedDefault? := by
  unfold constrainedDefault? plain
  split_ifs with null
  · rw [null]
  · rfl

@[simp] theorem hasConstraint_plain (c : Column) : c.plain.hasConstraint = c.hasConstraint := by
  unfold hasConstraint
  rw [constrainedDefault?_plain]

end Column

namespace Release

@[simp] theorem declare_plain (r : Release) (c : Column) :
    r.dialect.declare c.plain = r.dialect.declare c := rfl

theorem defaultStatement_plain (r : Release) (table : String) (c : Column)
    (default : Option DefaultValue) :
    r.dialect.defaultStatement table c.plain default =
      r.dialect.defaultStatement table c default := by
  cases default <;> rfl

end Release

/-! ## Plain changes -/

namespace Change

/-- The change between the plain columns, without the sign. -/
def plain (k : Change) : Change :=
  { k with
    attributes := k.attributes.erase .unsigned
    before := k.before.plain
    after := k.after.plain }

theorem concerns_plain (k : Change) (a : Attribute) :
    k.plain.concerns a = (a != .unsigned && k.concerns a) := rfl

theorem concerns_plain_of_ne (k : Change) {a : Attribute} (h : a ≠ .unsigned) :
    k.plain.concerns a = k.concerns a := by
  rw [concerns_plain, bne_iff_ne.2 h, Bool.true_and]

/-- The sign does not redefine a column. -/
@[simp] theorem altersDefinition_plain (k : Change) :
    k.plain.altersDefinition = k.altersDefinition := by
  rw [Bool.eq_iff_iff]
  unfold altersDefinition
  rw [AttributeSet.altersDefinition_iff, AttributeSet.altersDefinition_iff]
  constructor
  · rintro ⟨a, concerns, alters⟩
    exact ⟨a, ((AttributeSet.has_erase ..).1 concerns).2, alters⟩
  · rintro ⟨a, concerns, alters⟩
    have other : a ≠ .unsigned := by
      rintro rfl
      cases alters
    exact ⟨a, (AttributeSet.has_erase ..).2 ⟨other, concerns⟩, alters⟩

theorem isEmpty_plain {k : Change} (signed : k.concerns .unsigned = false) :
    k.plain.isEmpty = k.isEmpty := by
  show (k.attributes.erase .unsigned).isEmpty = k.attributes.isEmpty
  rw [AttributeSet.erase_eq_self signed]

@[simp] theorem renames_plain (k : Change) : k.plain.renames = k.renames := by
  unfold renames
  rw [concerns_plain_of_ne k (by decide)]
  rfl

@[simp] theorem dropsConstraint_plain (k : Change) :
    k.plain.dropsConstraint = k.dropsConstraint := by
  unfold dropsConstraint
  rw [concerns_plain_of_ne k (by decide), altersDefinition_plain]
  show (k.before.plain.hasConstraint && _) = _
  rw [Column.hasConstraint_plain]

@[simp] theorem addedDefault?_plain (k : Change) : k.plain.addedDefault? = k.addedDefault? := by
  unfold addedDefault?
  rw [concerns_plain_of_ne k (by decide), dropsConstraint_plain]
  show (if _ then k.after.plain.constrainedDefault? else none) = _
  rw [Column.constrainedDefault?_plain]

theorem concernsType_plain (k : Change) : k.plain.concernsType = k.concernsType := by
  unfold concernsType
  rw [concerns_plain_of_ne k (by decide), concerns_plain_of_ne k (by decide)]

theorem without_plain (k : Change) (a : Attribute) :
    k.plain.without a = (k.without a).plain := by
  unfold without plain
  congr 1
  ext b
  simp only [AttributeSet.erase]
  rw [Bool.and_left_comm]

theorem untyped_plain (k : Change) : k.plain.untyped = k.untyped.plain := by
  unfold untyped
  rw [without_plain, without_plain]

end Change

/-! ## Plain diffs -/

/-- The plain column under its new name. -/
def Rename.plain (n : Rename) : Rename := { n with column := n.column.plain }

/-- **The plain form of a diff**: all its columns and changes are plain. -/
def TableDiff.plain (d : TableDiff) : TableDiff :=
  { d with
    added := d.added.map Column.plain
    removed := d.removed.map Column.plain
    changed := d.changed.map Change.plain
    renamed := d.renamed.map Rename.plain }

namespace Release

/-! ## Entries and their plain forms -/

theorem changeStatements_plain (r : Release) (table : String) (k : Change) :
    r.dialect.changeStatements table k.plain = r.dialect.changeStatements table k := by
  have redefined : r.dialect.redefinition table k.plain = r.dialect.redefinition table k := by
    unfold Dialect.redefinition
    rw [Change.altersDefinition_plain]
    rfl
  have defaulted : r.dialect.defaultStatement table k.plain.after k.plain.addedDefault? =
      r.dialect.defaultStatement table k.after k.addedDefault? := by
    rw [Change.addedDefault?_plain]
    exact r.defaultStatement_plain table k.after _
  unfold Dialect.changeStatements
  rw [redefined, defaulted, Change.renames_plain, Change.dropsConstraint_plain]
  rfl

theorem additionStatements_plain (r : Release) (table : String) (c : Column) :
    r.dialect.additionStatements table c.plain = r.dialect.additionStatements table c := by
  unfold Dialect.additionStatements
  rw [declare_plain, Column.constrainedDefault?_plain, defaultStatement_plain]

theorem inlineAddition_plain (r : Release) (table : String) (c : Column) :
    r.dialect.inlineAddition table c.plain = r.dialect.inlineAddition table c := by
  unfold Dialect.inlineAddition
  rw [declare_plain, Column.constrainedDefault?_plain]
  rfl

theorem removals_plain (d : TableDiff) : Dialect.removals d.plain = Dialect.removals d := by
  unfold Dialect.removals TableDiff.plain
  rw [List.map_map]
  rfl

theorem columnRenames_plain (d : TableDiff) :
    Dialect.columnRenames d.plain = Dialect.columnRenames d := by
  unfold Dialect.columnRenames TableDiff.plain
  rw [List.map_map]
  rfl

theorem guardedDrops_plain (d : TableDiff) : guardedDrops d.plain = guardedDrops d := by
  unfold guardedDrops TableDiff.plain
  rw [List.filter_map, List.map_map]
  have same : Column.hasConstraint ∘ Column.plain = Column.hasConstraint :=
    funext Column.hasConstraint_plain
  rw [same]
  rfl

/-- The plain compiler does not tell a diff from its plain form. A change of the sign alone has no
statement, and its plain form is left out for being empty. -/
theorem stepwise_plain (r : Release) (d : TableDiff) :
    r.dialect.stepwise d.plain = r.dialect.stepwise d := by
  have added : Dialect.forEach (r.dialect.additionStatements d.plain.name) d.plain.added =
      Dialect.forEach (r.dialect.additionStatements d.name) d.added :=
    Dialect.forEach_map_eq (r.additionStatements_plain d.name) d.added
  have changed : Dialect.forEach (r.dialect.changeStatements d.plain.name) d.plain.changed =
      Dialect.forEach (r.dialect.changeStatements d.name) d.changed :=
    Dialect.forEach_map_eq (r.changeStatements_plain d.name) d.changed
  unfold Dialect.stepwise
  rw [Dialect.forEach_changeStatements_filter, Dialect.forEach_changeStatements_filter, added,
    changed, removals_plain, columnRenames_plain]
  rfl

/-! ## What is left of plain changes -/

theorem comparedTypes_plain (r : Release) (k : Change) :
    r.dialect.comparedTypes k.plain = r.dialect.comparedTypes k := rfl

/-- What is left of a plain change is the plain form of what is left of the change. -/
theorem reduce_plain (r : Release) (k : Change) :
    r.dialect.reduce k.plain = (r.dialect.reduce k).map Change.plain := by
  by_cases typed : k.concernsType = true
  · cases compared : r.dialect.comparedTypes k with
    | error e =>
      rw [(Dialect.reduce_eq_error_iff ..).2 ⟨typed, compared⟩]
      exact (Dialect.reduce_eq_error_iff ..).2
        ⟨(Change.concernsType_plain k).trans typed, (comparedTypes_plain r k).trans compared⟩
    | ok types =>
      obtain ⟨before, after⟩ := types
      rw [Dialect.reduce_of_comparedTypes typed compared,
        Dialect.reduce_of_comparedTypes ((Change.concernsType_plain k).trans typed)
          ((comparedTypes_plain r k).trans compared)]
      rw [Change.without_plain, Change.untyped_plain]
      split_ifs <;> rfl
  · rw [Bool.not_eq_true] at typed
    rw [Dialect.reduce_of_not_concernsType typed,
      Dialect.reduce_of_not_concernsType ((Change.concernsType_plain k).trans typed),
      Change.without_plain]
    rfl

theorem reduce?_plain (r : Release) (k : Change) :
    r.dialect.reduce? k.plain = (r.dialect.reduce? k).map (Option.map Change.plain) := by
  unfold Dialect.reduce?
  rw [reduce_plain]
  cases hk : r.dialect.reduce k with
  | error e => rfl
  | ok k' =>
    have same := Change.isEmpty_plain (Dialect.concerns_unsigned_reduce hk)
    show Except.ok (if k'.plain.isEmpty then none else some k'.plain) =
      Except.ok ((if k'.isEmpty then none else some k').map Change.plain)
    rw [same]
    cases k'.isEmpty <;> rfl

/-- So it is for all changes of a diff, errors included. -/
theorem kept_plain (r : Release) (ks : List Change) :
    r.dialect.kept (ks.map Change.plain) = (r.dialect.kept ks).map (List.map Change.plain) := by
  induction ks with
  | nil => rfl
  | cons k more ih =>
    rw [List.map_cons, Dialect.kept_cons, Dialect.kept_cons, reduce?_plain, ih]
    cases r.dialect.reduce? k with
    | error e => rfl
    | ok k' =>
      cases r.dialect.kept more with
      | error e => rfl
      | ok left => cases k' <;> rfl

end Release

namespace Platform

/-- A platform does not tell a diff from its plain form if its fallback does not. -/
theorem compile_plain_of_fallback (r : Release) {fallback : Compiler} (hints : HintTable)
    (same : ∀ d, fallback d.plain = fallback d) (d : TableDiff) :
    (Platform.mk r fallback hints).compile d.plain = (Platform.mk r fallback hints).compile d := by
  have added : Dialect.forEach (r.dialect.inlineAddition d.name) (d.added.map Column.plain) =
      Dialect.forEach (r.dialect.inlineAddition d.name) d.added :=
    Dialect.forEach_map_eq (r.inlineAddition_plain d.name) d.added
  rw [compile_eq, compile_eq, Release.guardedDrops_plain]
  show (r.dialect.kept (d.changed.map Change.plain) >>= fun _ =>
    Dialect.forEach (r.dialect.inlineAddition d.name) (d.added.map Column.plain) >>= _) = _
  rw [Release.kept_plain, added]
  cases r.dialect.kept d.changed with
  | error e => rfl
  | ok ks =>
    -- what is left to the fallback is the plain form of what is left of the diff
    have left : fallback { d.plain with added := [], changed := ks.map Change.plain } =
        fallback { d with added := [], changed := ks } :=
      same { d with added := [], changed := ks }
    show (_ >>= fun _ =>
      fallback { d.plain with added := [], changed := ks.map Change.plain } >>= _) = _
    rw [left]
    rfl

/-- **The sign and an explicit null make no difference.** A diff and its plain form are compiled to
the same statements, or fail in the same way: by the platform of a release, and by its plain
compiler alone. -/
theorem compile_plain (r : Release) (d : TableDiff) :
    (Platform.ofRelease r).compile d.plain = (Platform.ofRelease r).compile d ∧
      r.dialect.stepwise d.plain = r.dialect.stepwise d :=
  ⟨compile_plain_of_fallback r .standard r.stepwise_plain d, r.stepwise_plain d⟩

end Platform

end TsqlAlter
