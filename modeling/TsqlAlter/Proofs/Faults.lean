import TsqlAlter.Proofs.Compilation

/-!
# Why a diff fails to compile

Whether a diff is compiled can be said without compiling it. A type without SQL counterpart and a
default without literal are faults where they have to be written, and each entry of a diff has to
write some of its types and defaults: a change whose types are compared both of these, under the old
name; an added column its type and its default; and what is left of a change the new type if the
column is redefined, and the new default if its constraint is made anew. The last depends on the
release, which decides what is left of the changes, and on whether there was a constraint before.

`faults` lists what is wrong with a column, a change or a diff, in the order in which it is found,
and `survivors` what is left of the changes.

Results:
* `failure?_reduce?`, `additionFailure?_eq`, `failure?_changeStatements`: each kind of entry fails
  with the first of its faults.
* `failure?_compile`: a diff fails with the first fault of its entries.
* `compile_eq_error_iff_faults`: so it fails exactly if there is one, and nothing else counts.

Left out: columns that are removed or only renamed. No type and no default of theirs is written.
-/

namespace TsqlAlter

/-! ## Faults -/

/-- Why a default cannot be written, if so: it is a number that is not finite, or an expression of
which nothing is left when it is trimmed. -/
def DefaultValue.fault? : DefaultValue → Option NoLiteral
  | float x => if x.isFinite then none else some (.notFinite x)
  | expression sql => if Text.trim sql.toList = [] then some .blankExpression else none
  | _ => none

/-- A type cannot be written if it is not known. -/
def ColumnType.faults (type : ColumnType) (column : String) : List Error :=
  match type with
  | unknown name => [.unrenderableType column name]
  | _ => []

namespace Column

/-- The default of the column cannot be written. -/
def HasFaultyDefault (c : Column) : Prop := ∃ v, c.default = some v ∧ v.fault? ≠ none

/-- What is wrong with the default of a column. -/
def defaultFaults (c : Column) : List Error :=
  ((c.default.bind DefaultValue.fault?).map (.unresolvableDefault c.name)).toList

/-- What is wrong with an added column: its type first, then its default. -/
def faults (c : Column) : List Error := c.type.faults c.name ++ c.defaultFaults

end Column

namespace Change

/-- What is wrong with a change whose types are compared: the old type first, then the new one, both
under the old name. -/
def comparisonFaults (c : Change) : List Error :=
  if c.concerns .type || c.concerns .length then
    c.before.type.faults c.before.name ++ c.after.type.faults c.before.name
  else []

/-- What is wrong with a change that is left: the new type if the column is redefined, then the new
default if it has to be added. -/
def faults (c : Change) : List Error :=
  (if c.altersDefinition then c.after.type.faults c.after.name else []) ++
    if c.concerns .default || (c.altersDefinition && c.before.hasConstraint) then
      c.after.defaultFaults
    else []

/-- The change from another old default, if there was one: a null does not count. -/
def withOldDefault (c : Change) (v : { v : DefaultValue // v ≠ .null }) : Change :=
  { c with before := { c.before with default := c.before.constrainedDefault?.map fun _ => v.1 } }

end Change

namespace TableDiff

/-- What is left of the changes of a diff. -/
def survivors (d : TableDiff) (r : Release) : List Change :=
  d.changed.filterMap fun c => (r.dialect.reduce? c).toOption.join

/-- What is wrong with a diff: with the comparisons, then with the added columns, then with what is
left of the changes. -/
def faults (d : TableDiff) (r : Release) : List Error :=
  d.changed.flatMap Change.comparisonFaults ++ d.added.flatMap Column.faults ++
    (d.survivors r).flatMap Change.faults

end TableDiff

/-! ## Faults of columns -/

theorem ColumnType.faults_eq_nil_iff {type : ColumnType} {column : String} :
    type.faults column = [] ↔ type.isKnown = true := by
  cases type <;> simp [faults, isKnown]

namespace Column

variable {c : Column}

/-- An explicit null has no fault, so it does not matter whether it counts as a default. -/
theorem bind_constrainedDefault? (c : Column) :
    c.constrainedDefault?.bind DefaultValue.fault? = c.default.bind DefaultValue.fault? := by
  unfold constrainedDefault?
  split
  · next null =>
    rw [null]
    rfl
  · rfl

theorem defaultFaults_eq_nil_iff : c.defaultFaults = [] ↔ ¬c.HasFaultyDefault := by
  unfold defaultFaults HasFaultyDefault
  cases c.default <;> simp

theorem faults_ne_nil_iff : c.faults ≠ [] ↔ c.type.isKnown = false ∨ c.HasFaultyDefault := by
  rw [Ne, faults, List.append_eq_nil_iff, ColumnType.faults_eq_nil_iff, defaultFaults_eq_nil_iff,
    not_and_or, Bool.not_eq_true, not_not]

end Column

namespace Change

variable {c : Change}

theorem comparisonFaults_ne_nil_iff :
    c.comparisonFaults ≠ [] ↔ (c.concerns .type = true ∨ c.concerns .length = true) ∧
      (c.before.type.isKnown = false ∨ c.after.type.isKnown = false) := by
  rw [comparisonFaults, ← Bool.or_eq_true]
  split
  · next typed =>
    rw [Ne, List.append_eq_nil_iff, ColumnType.faults_eq_nil_iff, ColumnType.faults_eq_nil_iff,
      not_and_or, Bool.not_eq_true, Bool.not_eq_true, and_iff_right typed]
  · next typed => simp [typed]

theorem faults_ne_nil_iff :
    c.faults ≠ [] ↔ (c.altersDefinition = true ∧ c.after.type.isKnown = false) ∨
      ((c.concerns .default = true ∨ c.altersDefinition = true ∧ c.before.hasConstraint = true) ∧
        c.after.HasFaultyDefault) := by
  rw [Ne, faults, List.append_eq_nil_iff, not_and_or, ← Bool.and_eq_true, ← Bool.or_eq_true]
  refine or_congr ?_ ?_
  · split
    · next alters =>
      rw [ColumnType.faults_eq_nil_iff, Bool.not_eq_true, and_iff_right alters]
    · next stays => simp [stays]
  · split
    · next added => rw [Column.defaultFaults_eq_nil_iff, not_not, and_iff_right added]
    · next kept => simp [kept]

/-! ## Old defaults -/

variable (v : { v : DefaultValue // v ≠ .null })

theorem hasConstraint_withOldDefault (c : Change) :
    (c.withOldDefault v).before.hasConstraint = c.before.hasConstraint := by
  obtain ⟨v, full⟩ := v
  unfold withOldDefault Column.hasConstraint
  cases c.before.constrainedDefault? with
  | none => rfl
  | some old =>
    have held : Column.constrainedDefault? { c.before with default := some v } = some v := by
      unfold Column.constrainedDefault?
      split
      · next null => exact absurd (Option.some.inj null) full
      · rfl
    show (Column.constrainedDefault? { c.before with default := some v }).isSome = _
    rw [held]
    rfl

theorem faults_withOldDefault (c : Change) : (c.withOldDefault v).faults = c.faults := by
  unfold faults
  rw [hasConstraint_withOldDefault]
  rfl

end Change

namespace Release

variable {r : Release} {table : String}

theorem failure?_typeText (r : Release) (c : Column) :
    failure? (r.dialect.typeText c) = (c.type.faults c.name).head? := by
  show failure? ((SqlType.ofColumn r c).map SqlType.text) = _
  unfold SqlType.ofColumn
  cases c.type <;> rfl

theorem failure?_declare (r : Release) (c : Column) :
    failure? (r.dialect.declare c) = (c.type.faults c.name).head? := by
  rw [Dialect.declare, failure?_map, failure?_typeText]

theorem failure?_literal (r : Release) (column : String) (v : DefaultValue) :
    failure? (r.dialect.literal column v) = v.fault?.map (.unresolvableDefault column) := by
  show failure? (Sql.ofDefault column v) = _
  cases v
  case float x =>
    simp only [Sql.ofDefault, DefaultValue.fault?]
    cases x.isFinite <;> rfl
  case expression sql =>
    simp only [Sql.ofDefault, DefaultValue.fault?, Text.trim_eq_nil_iff]
    cases Text.allBlank sql.toList <;> rfl
  all_goals rfl

/-- Writing a default fails with what is wrong with it. -/
theorem bind_failure?_literal (r : Release) (c : Column) :
    (c.constrainedDefault?.bind fun v => failure? (r.dialect.literal c.name v)) =
      c.defaultFaults.head? := by
  simp only [failure?_literal]
  rw [Column.defaultFaults, Option.head?_toList, ← Column.bind_constrainedDefault?]
  cases c.constrainedDefault? <;> rfl

/-! ## Faults of entries -/

/-- Reducing a change fails with the first of the types that cannot be compared. -/
theorem failure?_reduce? (r : Release) (c : Change) :
    failure? (r.dialect.reduce? c) = c.comparisonFaults.head? := by
  rw [Dialect.reduce?, failure?_map, Dialect.reduce, Change.comparisonFaults]
  dsimp only
  show failure? (if (c.concerns .type || c.concerns .length) = true then _ else _) = _
  by_cases typed : (c.concerns .type || c.concerns .length) = true
  · rw [if_pos typed, if_pos typed, failure?_map, Dialect.comparedTypes, failure?_bind,
      List.head?_append, ← failure?_typeText]
    cases r.dialect.typeText c.before with
    | error e => rfl
    | ok before =>
      have after := failure?_typeText r (c.before.withTypeOf c.after)
      show failure? (_ >>= _) = Option.or none _
      rw [failure?_bind, Option.none_or]
      cases ht : r.dialect.typeText (c.before.withTypeOf c.after) with
      | error e => exact (ht ▸ after :)
      | ok after' => exact (ht ▸ after :)
  · rw [if_neg typed, if_neg typed]
    rfl

/-- A column fails to be added with the first of its faults. -/
theorem additionFailure?_eq (r : Release) (c : Column) :
    r.dialect.additionFailure? c = c.faults.head? := by
  rw [Dialect.additionFailure?, failure?_declare, bind_failure?_literal, Column.faults,
    List.head?_append]

theorem failure?_defaultStatement (r : Release) (table : String) (c : Column) :
    ∀ default, failure? (r.dialect.defaultStatement table c default) =
      default.bind fun v => failure? (r.dialect.literal c.name v)
  | none => rfl
  | some v => by
    rw [Dialect.defaultStatement, failure?_bind, Dialect.constraint]
    show _ = failure? (r.dialect.literal c.name v)
    cases r.dialect.literal c.name v <;> rfl

/-- What is left of a change fails with the first of its faults. -/
theorem failure?_changeStatements (r : Release) (table : String) (k : Change) :
    failure? (r.dialect.changeStatements table k) = k.faults.head? := by
  have redefined : failure? (r.dialect.redefinition table k) =
      (if k.altersDefinition then k.after.type.faults k.after.name else []).head? := by
    rw [Dialect.redefinition]
    split
    · rw [failure?_map, failure?_declare]
    · rfl
  have defaulted : failure? (r.dialect.defaultStatement table k.after k.addedDefault?) =
      (if k.concerns .default || (k.altersDefinition && k.before.hasConstraint) then
        k.after.defaultFaults else []).head? := by
    rw [failure?_defaultStatement, Change.addedDefault?, Change.dropsConstraint]
    -- a new default is added in any case, so that of the dropped ones only the kept defaults count
    have again : (k.concerns .default ||
        (k.before.hasConstraint && (k.concerns .default || k.altersDefinition))) =
        (k.concerns .default || (k.altersDefinition && k.before.hasConstraint)) := by
      cases k.concerns .default <;> cases k.altersDefinition <;> simp
    rw [again]
    split
    · exact bind_failure?_literal r k.after
    · rfl
  rw [Dialect.changeStatements, failure?_bind, Change.faults, List.head?_append, ← redefined,
    ← defaulted]
  cases r.dialect.redefinition table k with
  | error e => rfl
  | ok redefine =>
    show failure? (_ >>= _) = Option.or none _
    rw [failure?_bind, Option.none_or]
    cases r.dialect.defaultStatement table k.after k.addedDefault? <;> rfl

/-- The old default does not count for what is left of a change. -/
theorem reduce?_withOldDefault (r : Release) (c : Change)
    (v : { v : DefaultValue // v ≠ .null }) :
    r.dialect.reduce? (c.withOldDefault v) =
      (r.dialect.reduce? c).map (Option.map (·.withOldDefault v)) := by
  have compared : r.dialect.comparedTypes (c.withOldDefault v) = r.dialect.comparedTypes c := rfl
  have reduced : r.dialect.reduce (c.withOldDefault v) =
      (r.dialect.reduce c).map (·.withOldDefault v) := by
    rw [Dialect.reduce, Dialect.reduce, compared]
    dsimp only
    show (if c.concernsType = true then _ else _) = _
    split
    · cases r.dialect.comparedTypes c with
      | error e => rfl
      | ok types =>
        by_cases same : types.1 = types.2
        · simp only [Except.map, if_pos same]
          rfl
        · simp only [Except.map, if_neg same]
          rfl
    · rfl
  rw [Dialect.reduce?, Dialect.reduce?, reduced]
  cases r.dialect.reduce c with
  | error e => rfl
  | ok k =>
    have same : (k.withOldDefault v).isEmpty = k.isEmpty := rfl
    simp only [Except.map, same]
    cases k.isEmpty <;> rfl

end Release

/-! ## Faults of diffs -/

namespace TableDiff

variable {r : Release} {d : TableDiff}

theorem mem_survivors_iff {k : Change} :
    k ∈ d.survivors r ↔ ∃ c ∈ d.changed, r.dialect.reduce? c = .ok (some k) := by
  rw [survivors, List.mem_filterMap]
  refine exists_congr fun c => and_congr_right fun _ => ?_
  cases r.dialect.reduce? c <;> simp [Except.toOption]

/-- Only the names, the types and the new defaults of columns count, and where a column had a
constraint. -/
theorem faults_withOldDefault (r : Release) (d : TableDiff)
    (old : Change → { v : DefaultValue // v ≠ .null }) :
    faults { d with changed := d.changed.map fun c => c.withOldDefault (old c) } r =
      d.faults r := by
  have compared (c : Change) : (c.withOldDefault (old c)).comparisonFaults = c.comparisonFaults :=
    rfl
  have left (c : Change) :
      ((r.dialect.reduce? (c.withOldDefault (old c))).toOption.join).toList.flatMap Change.faults =
        ((r.dialect.reduce? c).toOption.join).toList.flatMap Change.faults := by
    rw [Release.reduce?_withOldDefault]
    cases r.dialect.reduce? c with
    | error e => rfl
    | ok k =>
      cases k with
      | none => rfl
      | some k => simp [Except.map, Except.toOption, Change.faults_withOldDefault]
  simp only [faults, survivors, List.flatMap_map, compared, List.filterMap_eq_flatMap_toList,
    List.flatMap_assoc, left]

end TableDiff

namespace Platform

open Dialect

variable {r : Release} {d : TableDiff}

/-- **A diff fails to be compiled with the first of its faults.** -/
theorem failure?_compile (r : Release) (d : TableDiff) :
    failure? ((ofRelease r).compile d) = (d.faults r).head? := by
  have compared : failure? (r.dialect.kept d.changed) =
      (d.changed.flatMap Change.comparisonFaults).head? := by
    rw [failure?_kept, List.head?_flatMap]
    simp only [Release.failure?_reduce?]
  have added : failure? (forEach (r.dialect.inlineAddition d.name) d.added) =
      (d.added.flatMap Column.faults).head? := by
    rw [failure?_forEach, List.head?_flatMap]
    simp only [failure?_inlineAddition, Release.additionFailure?_eq]
  rw [ofRelease, compile_eq, failure?_bind, TableDiff.faults, List.head?_append, List.head?_append,
    ← compared, ← added]
  cases hk : r.dialect.kept d.changed with
  | error e => rfl
  | ok ks =>
    have changed : failure? (r.dialect.stepwise { d with added := [], changed := ks }) =
        ((d.survivors r).flatMap Change.faults).head? := by
      rw [TableDiff.survivors, ← eq_filterMap_of_kept hk, List.head?_flatMap, stepwise]
      show failure? (forEach _ _ >>= _) = _
      rw [forEach_changeStatements_filter, failure?_bind]
      have entries := failure?_forEach (r.dialect.changeStatements d.name) ks
      simp only [Release.failure?_changeStatements] at entries
      rw [← entries]
      cases forEach (r.dialect.changeStatements d.name) ks <;> rfl
    show failure? (_ >>= _) = (Option.or none _).or _
    rw [failure?_bind, Option.none_or, ← changed]
    cases forEach (r.dialect.inlineAddition d.name) d.added with
    | error e => rfl
    | ok additions =>
      show failure? (_ >>= _) = Option.or none _
      rw [failure?_bind, Option.none_or]
      cases r.dialect.stepwise { d with added := [], changed := ks } <;> rfl

/-- **When a diff is not compiled, and why.** A diff fails exactly if a change that concerns the
type or the length has an unknown type on either side, or an added column has an unknown type or a
faulty default, or what the release leaves of a change redefines its column with an unknown type, or
makes the constraint of a faulty default. The first such fault is the error. The removed and the
renamed columns do not count, and of an old default only whether there was a constraint. -/
theorem compile_eq_error_iff_faults (r : Release) (d : TableDiff) :
    ((∃ e, (ofRelease r).compile d = .error e) ↔
      (∃ c ∈ d.changed, (c.concerns .type = true ∨ c.concerns .length = true) ∧
        (c.before.type.isKnown = false ∨ c.after.type.isKnown = false)) ∨
      (∃ x ∈ d.added, x.type.isKnown = false ∨ x.HasFaultyDefault) ∨
      ∃ c ∈ d.changed, ∃ k, r.dialect.reduce? c = .ok (some k) ∧
        ((k.altersDefinition = true ∧ k.after.type.isKnown = false) ∨
          ((k.concerns .default = true ∨
              k.altersDefinition = true ∧ k.before.hasConstraint = true) ∧
            k.after.HasFaultyDefault))) ∧
    (∀ e, (ofRelease r).compile d = .error e ↔ (d.faults r).head? = some e) ∧
    ∀ newName removed renamed (old : Change → { v : DefaultValue // v ≠ .null }),
      failure? ((ofRelease r).compile { d with
        newName := newName
        removed := removed
        changed := d.changed.map fun c => c.withOldDefault (old c)
        renamed := renamed }) = failure? ((ofRelease r).compile d) := by
  have first (e : Error) : (ofRelease r).compile d = .error e ↔ (d.faults r).head? = some e := by
    rw [← failure?_compile, failure?_eq_some_iff]
  refine ⟨?_, first, fun newName removed renamed old => ?_⟩
  · have faulty : (∃ e, (ofRelease r).compile d = .error e) ↔ d.faults r ≠ [] := by
      simp only [first]
      rw [← Option.isSome_iff_exists, List.isSome_head?]
    have kinds : d.faults r ≠ [] ↔ (∃ c ∈ d.changed, c.comparisonFaults ≠ []) ∨
        (∃ x ∈ d.added, x.faults ≠ []) ∨ ∃ k ∈ d.survivors r, k.faults ≠ [] := by
      simp only [TableDiff.faults, Ne, List.append_eq_nil_iff, List.flatMap_eq_nil_iff, not_and_or,
        not_forall, or_assoc, exists_prop]
    have left : (∃ k ∈ d.survivors r, k.faults ≠ []) ↔
        ∃ c ∈ d.changed, ∃ k, r.dialect.reduce? c = .ok (some k) ∧ k.faults ≠ [] := by
      simp only [TableDiff.mem_survivors_iff]
      constructor
      · rintro ⟨k, ⟨c, hc, hk⟩, faulty⟩
        exact ⟨c, hc, k, hk, faulty⟩
      · rintro ⟨c, hc, k, hk, faulty⟩
        exact ⟨k, ⟨c, hc, hk⟩, faulty⟩
    rw [faulty, kinds, left]
    simp only [Change.comparisonFaults_ne_nil_iff, Column.faults_ne_nil_iff,
      Change.faults_ne_nil_iff]
  · rw [failure?_compile, failure?_compile, ← TableDiff.faults_withOldDefault r d old]
    rfl

/-- A faulty default that is kept counts where the release tells the new type from the old one. -/
example :
    let change : Change := .between
      { name := "A", type := .datetime, default := some (.expression " ") }
      { name := "A", type := .datetimetz, default := some (.expression " ") }
    let d : TableDiff := { name := "T", changed := [change] }
    d.faults .sql2005 = [] ∧
      d.faults .sql2008 = [.unresolvableDefault "A" .blankExpression] := by
  decide +kernel

end Platform

end TsqlAlter
