import TsqlAlter.Proofs.Defaults
import TsqlAlter.Proofs.Server.Diffs

/-!
# Tables that realize columns

A table realizes columns in logical terms if it has just these columns, declared as a release
declares them, and just the default constraints they need: each named after the table and its
column, with the literal of a default of the same value.

`Declares` says how a release declares a column and `Realizes` what a table realizes, also row by
row. `Leads` says of a change that it concerns what two versions of a column differ in.

Results:
* `Realizes.rows`, `realizes_of_rows`: a table realizes columns exactly when its rows do, one by
  one.
* `declare_of_stays`: a change that does not redefine its column leaves the declaration as it is.
* `MakesAdded.realizes`, `MakesChanged.realizes`: added and changed columns are realized.

Left out: columns that a table has besides. It realizes all of its columns or none.
-/

namespace TsqlAlter

open Std (ExtTreeMap)

/-- The columns of a table in logical terms, by their names. -/
abbrev Columns := ExtTreeMap String Column

variable {r : Release} {x : Column} {cols : Columns} {t u : Table} {c : Catalog} {row : Row}
  {table : String}

section Rel

variable {α β : Type} {R : α → β → Prop} {a? : Option α} {b? : Option β}

theorem isSome_eq_of_rel (h : Option.Rel R a? b?) : a?.isSome = b?.isSome := by
  cases h <;> rfl

theorem exists_of_rel_some {a : α} (h : Option.Rel R (some a) b?) : ∃ b, b? = some b ∧ R a b := by
  cases h with
  | some h => exact ⟨_, rfl, h⟩

theorem exists_of_rel_some_right {b : β} (h : Option.Rel R a? (some b)) :
    ∃ a, a? = some a ∧ R a b := by
  cases h with
  | some h => exact ⟨_, rfl, h⟩

theorem eq_none_of_rel_none (h : Option.Rel R none b?) : b? = none := by
  cases h
  rfl

end Rel

/-! ## Tables and their rows -/

/-- The release declares the column with these attributes. -/
def Release.Declares (r : Release) (x : Column) (a : Attributes) : Prop :=
  ∃ declaration, r.dialect.declare x = .ok declaration ∧ a = declaration.attributes

/-- **The table realizes the columns**: these are its columns, and its default constraints are those
they need. -/
structure Table.Realizes (t : Table) (r : Release) (cols : Columns) : Prop where
  columns (n : String) : Option.Rel (fun x a => x.name = n ∧ r.Declares x a) cols[n]? t.columns[n]?
  defaults (n : String) (x : Column) : cols[n]? = some x → t.hasDefault n = x.hasConstraint
  constraints (k : String) (e : ColumnDefault) : t.constraints[k]? = some e →
    k = Sql.constraintName t.name e.column ∧ ∃ x value, cols[e.column]? = some x ∧
      x.constrainedDefault? = some value ∧ value.HasLiteral e.literal

/-- The row realizes a column of the table. -/
structure Row.Realizes (row : Row) (r : Release) (table : String) (x : Column) : Prop where
  name : row.name = x.name
  attributes : r.Declares x row.attributes
  default : Option.Rel (fun value e => e.name = Sql.constraintName table x.name ∧
    value.HasLiteral e.literal) x.constrainedDefault? row.default

namespace Table

theorem Realizes.mem_iff (h : t.Realizes r cols) (n : String) : n ∈ cols ↔ n ∈ t.columns := by
  rw [ExtTreeMap.mem_iff_isSome_getElem?, ExtTreeMap.mem_iff_isSome_getElem?,
    isSome_eq_of_rel (h.columns n)]

theorem Realizes.wellNamed (h : t.Realizes r cols) : t.WellNamed := by
  intro k e he
  obtain ⟨hk, x, value, hx, -⟩ := h.constraints k e he
  refine ⟨(h.mem_iff _).1 ?_, hk⟩
  rw [ExtTreeMap.mem_iff_isSome_getElem?, hx]
  rfl

/-- The rows of a table that realizes columns realize them one by one. -/
theorem Realizes.rows (h : t.Realizes r cols) (n : String) :
    Option.Rel (fun x row => x.name = n ∧ row.Realizes r t.name x) cols[n]? (t.catalog.rows n) := by
  have columns := h.columns n
  cases hx : cols[n]? with
  | none =>
    rw [hx] at columns
    simp [Table.catalog, Table.catalogWith, eq_none_of_rel_none columns]
  | some x =>
    rw [hx] at columns
    obtain ⟨a, ha, rfl, declared⟩ := exists_of_rel_some columns
    have row : t.catalog.rows x.name = some ⟨x.name, a, t.namedDefault? x.name⟩ :=
      rows_catalogWith_eq_some_iff.2 ⟨ha, rfl, rfl⟩
    rw [row]
    refine .some ⟨rfl, rfl, declared, ?_⟩
    show Option.Rel _ _ (t.namedDefault? x.name)
    have constrained := h.wellNamed.lists_catalog.hasDefault_eq row
    rw [h.defaults _ _ hx, Column.hasConstraint] at constrained
    cases hd : t.namedDefault? x.name with
    | none =>
      rw [hd, Option.isSome_none, Option.isSome_eq_false_iff, Option.isNone_iff_eq_none]
        at constrained
      rw [constrained]
      exact .none
    | some e =>
      obtain ⟨hk, he⟩ := namedDefault?_eq_some_iff.1 hd
      obtain ⟨-, y, value, hy, hv, literal⟩ := h.constraints _ _ he
      cases hx.symm.trans hy
      rw [hv]
      exact .some ⟨hk, literal⟩

/-- A table whose rows realize columns realizes them. -/
theorem realizes_of_rows (lists : c.Lists u)
    (h : ∀ n, Option.Rel (fun x row => x.name = n ∧ row.Realizes r u.name x) cols[n]? (c.rows n)) :
    u.Realizes r cols := by
  have found {n : String} {x : Column} (hx : cols[n]? = some x) :
      ∃ a default, c.rows n = some ⟨n, a, default⟩ ∧ x.name = n ∧
        Row.Realizes ⟨n, a, default⟩ r u.name x := by
    have rel := h n
    rw [hx] at rel
    obtain ⟨⟨m, a, default⟩, hi, rfl, realized⟩ := exists_of_rel_some rel
    cases realized.name
    exact ⟨a, default, hi, rfl, realized⟩
  have known {i n : String} {a : Attributes} {default : Option DefaultConstraint}
      (hi : c.rows i = some ⟨n, a, default⟩) :
      ∃ x, cols[n]? = some x ∧ x.name = n ∧ Row.Realizes ⟨n, a, default⟩ r u.name x := by
    have rel := h i
    rw [hi] at rel
    obtain ⟨x, hx, rfl, realized⟩ := exists_of_rel_some_right rel
    cases realized.name
    exact ⟨x, hx, rfl, realized⟩
  refine ⟨fun n => ?_, fun n x hx => ?_, fun k e he => ?_⟩
  · cases ha : u.columns[n]? with
    | none =>
      cases hx : cols[n]? with
      | none => exact .none
      | some x =>
        obtain ⟨a, default, hi, -⟩ := found hx
        rw [lists.getElem?_columns hi] at ha
        cases ha
    | some a =>
      obtain ⟨i, default, hi⟩ := (lists.columns n a).1 ha
      obtain ⟨x, hx, name, realized⟩ := known hi
      rw [hx]
      exact .some ⟨name, realized.attributes⟩
  · obtain ⟨a, default, hi, -, realized⟩ := found hx
    rw [lists.hasDefault_eq hi, Column.hasConstraint, isSome_eq_of_rel realized.default]
  · obtain ⟨n, literal⟩ := e
    obtain ⟨i, a, hi⟩ := (lists.constraints k n literal).1 he
    obtain ⟨x, hx, rfl, realized⟩ := known hi
    obtain ⟨value, hv, hk, held⟩ := exists_of_rel_some_right realized.default
    exact ⟨hk, x, value, hx, hv, held⟩

end Table

/-! ## Added and changed columns -/

/-- The column under another name. -/
def Column.withName (c : Column) (name : String) : Column := { c with name := name }

namespace Change

variable {before after : Column} {k : Change}

/-- A change that concerns the default or redefines the column takes the default constraint away. -/
theorem dropsConstraint_eq (touches : k.concerns .default = true ∨ k.altersDefinition = true) :
    k.dropsConstraint = k.before.hasConstraint := by
  rw [← Bool.or_eq_true] at touches
  rw [dropsConstraint, touches, Bool.and_true]

/-- It adds the one that the new version of the column needs. -/
theorem addedDefault?_between (touches : (between before after).concerns .default = true ∨
    (between before after).altersDefinition = true) :
    (between before after).addedDefault? = after.constrainedDefault? := by
  rw [addedDefault?, dropsConstraint_eq touches]
  cases same : (between before after).concerns .default with
  | true => rfl
  | false =>
    have agree : Column.defaultsAgree before.default after.default = true := by
      simpa [concerns, Column.differ] using same
    show (if before.hasConstraint then after.constrainedDefault? else none) = _
    unfold Column.hasConstraint
    obtain ⟨bare, bare'⟩ | ⟨v, w, hv, hw, -⟩ := Column.constrainedDefault?_of_agree agree
    · rw [bare, bare']
      rfl
    · rw [hv]
      rfl

end Change

/-- An added column is realized. -/
theorem Dialect.MakesAdded.realizes (h : r.dialect.MakesAdded table x row) :
    row.Realizes r table x := by
  refine ⟨h.name, h.attributes, ?_⟩
  have default := h.default
  cases hx : x.constrainedDefault? with
  | none =>
    rw [hx] at default
    rw [default]
    exact .none
  | some value =>
    rw [hx] at default
    obtain ⟨literal, hl, default⟩ := default
    rw [default]
    exact .some ⟨rfl, DefaultValue.hasLiteral_of_ofDefault hl⟩

namespace Release

variable {before after : Column} {k : Change}

/-- The SQL type is that of the column the type is taken from. -/
theorem typeText_of_withTypeOf (before : Column) {type : String}
    (h : r.dialect.typeText (before.withTypeOf after) = .ok type) :
    r.dialect.typeText after = .ok type := by
  have known : after.type.isKnown = true := by
    have ok := SqlType.isOk_ofColumn r (before.withTypeOf after)
    obtain ⟨u, hu, -⟩ := map_eq_ok_iff.1 h
    rw [hu] at ok
    exact ok.symm
  show (SqlType.ofColumn r after).map SqlType.text = .ok type
  rw [← SqlType.ofColumn_withTypeOf r before known]
  exact h

/-- A change that does not concern the type or its parameters has nothing new to compare. -/
theorem withTypeOf_eq_self (same : ∀ a ∈ [Attribute.type, .length, .precision, .scale, .fixed],
    before.differ after a = false) : before.withTypeOf after = before := by
  have type := same .type (by simp)
  have length := same .length (by simp)
  have precision := same .precision (by simp)
  have scale := same .scale (by simp)
  have fixed := same .fixed (by simp)
  simp only [Column.differ, bne_eq_false_iff_eq] at type length precision scale fixed
  unfold Column.withTypeOf
  rw [← type, ← length, ← precision, ← scale, ← fixed]

/-- A reduced change that does not redefine its column concerns nothing that would. -/
theorem concerns_of_stays (stays : k.altersDefinition = false) {a : Attribute}
    (ha : a.altersDefinition = true) : k.concerns a = false :=
  Change.altersDefinition_eq_false_iff.1 stays a ha

/-- A reduced change that does not redefine its column leaves its SQL type as it is. -/
theorem typeText_of_reduce (reduced : r.dialect.reduce (.between before after) = .ok k)
    (stays : k.altersDefinition = false) {type : String}
    (declared : r.dialect.typeText before = .ok type) : r.dialect.typeText after = .ok type := by
  refine typeText_of_withTypeOf before ?_
  obtain ⟨typed, rfl⟩ | ⟨typed, rfl, -⟩ | ⟨-, rfl, type', compared⟩ := Dialect.reduce_cases reduced
  · rw [withTypeOf_eq_self]
    · exact declared
    · rw [Change.concernsType, Bool.or_eq_false_iff] at typed
      simp only [List.mem_cons, List.not_mem_nil, or_false, forall_eq_or_imp, forall_eq]
      exact ⟨typed.1, typed.2, concerns_of_stays (a := .precision) stays rfl,
        concerns_of_stays (a := .scale) stays rfl, concerns_of_stays (a := .fixed) stays rfl⟩
  · have type := concerns_of_stays (a := .type) stays rfl
    have length := concerns_of_stays (a := .length) stays rfl
    rw [Change.concerns_without] at type length
    rw [Change.concernsType, Bool.or_eq_true] at typed
    rcases typed with typed | typed
    · rw [typed] at type
      cases type
    · rw [typed] at length
      cases length
  · obtain ⟨hb, ha⟩ := Dialect.comparedTypes_eq_ok_iff.1 compared
    exact ha.trans (hb.symm.trans declared)

/-- Apart from the type, what would redefine the column is the same in both versions. -/
theorem differ_of_stays (reduced : r.dialect.reduce (.between before after) = .ok k)
    (stays : k.altersDefinition = false) {a : Attribute} (ha : a.altersDefinition = true)
    (ht : a ≠ .type) (hl : a ≠ .length) : before.differ after a = false := by
  have hu : a ≠ .unsigned := by
    rintro rfl
    cases ha
  rw [← concerns_of_stays stays ha, Dialect.concerns_reduce_of_ne reduced hu ht hl]
  rfl

/-- A column has its SQL type under any name. -/
theorem typeText_withName {type : String} (h : r.dialect.typeText before = .ok type)
    (name : String) : r.dialect.typeText (before.withName name) = .ok type :=
  typeText_of_withTypeOf before h

/-- A reduced change that does not redefine its column leaves its SQL type as it is, and its error
where it has none, under the new name. -/
theorem typeText_of_stays (reduced : r.dialect.reduce (.between before after) = .ok k)
    (stays : k.altersDefinition = false) :
    r.dialect.typeText (before.withName after.name) = r.dialect.typeText after := by
  cases declared : r.dialect.typeText before with
  | ok type => rw [typeText_of_reduce reduced stays declared, typeText_withName declared]
  | error e =>
    -- the types were not compared, so they do not differ
    have typed : (Change.between before after).concernsType = false := by
      rw [← Bool.not_eq_true]
      intro typed
      have failed : r.dialect.comparedTypes (.between before after) = .error e :=
        Dialect.comparedTypes_eq_error_iff.2 (.inl declared)
      rw [(Dialect.reduce_eq_error_iff ..).2 ⟨typed, failed⟩] at reduced
      cases reduced
    rw [Change.concernsType, Bool.or_eq_false_iff] at typed
    have same : before.type = after.type := by simpa [Change.concerns, Column.differ] using typed.1
    obtain ⟨type, unknown, -⟩ := (typeText_eq_error_iff ..).1 declared
    rw [(typeText_eq_error_iff r (before.withName after.name) _).2 ⟨type, unknown, rfl⟩,
      (typeText_eq_error_iff r after _).2 ⟨type, same ▸ unknown, rfl⟩]
    rfl

/-- **A reduced change that does not redefine its column leaves its declaration as it is**, and its
error where it has none, under the new name. -/
theorem declare_of_stays (reduced : r.dialect.reduce (.between before after) = .ok k)
    (stays : k.altersDefinition = false) :
    r.dialect.declare (before.withName after.name) = r.dialect.declare after := by
  have identity := differ_of_stays reduced stays (a := .autoincrement) rfl (by decide) (by decide)
  have collation := differ_of_stays reduced stays (a := .collation) rfl (by decide) (by decide)
  have nullable := differ_of_stays reduced stays (a := .nullable) rfl (by decide) (by decide)
  simp only [Column.differ, bne_eq_false_iff_eq] at identity collation nullable
  unfold Dialect.declare
  rw [typeText_of_stays reduced stays, ← identity, ← collation, ← nullable]
  rfl

/-- So the server keeps it as it is. -/
theorem declares_of_reduce (reduced : r.dialect.reduce (.between before after) = .ok k)
    (stays : k.altersDefinition = false) {a : Attributes} (h : r.Declares before a) :
    r.Declares after a := by
  obtain ⟨declaration, declared, rfl⟩ := h
  obtain ⟨type, typed, rfl⟩ := (Dialect.declare_eq_ok_iff _ _ _).1 declared
  have declared := (Dialect.declare_eq_ok_iff _ (before.withName after.name) _).2
    ⟨type, typeText_withName typed _, rfl⟩
  exact ⟨_, (declare_of_stays reduced stays).symm.trans declared, rfl⟩

end Release

/-- **The change leads from one version of a column to the other**: it concerns the default where
that differs, and redefines the column unless its declaration stays as it is. -/
structure Release.Leads (r : Release) (k : Change) (x y : Column) : Prop where
  before : k.before = x
  after : k.after = y
  default : k.concerns .default = false → Column.defaultsAgree x.default y.default = true
  declares : k.altersDefinition = false → ∀ a, r.Declares x a → r.Declares y a

namespace Release

variable {before after : Column} {k : Change}

/-- What is left of a change still leads from one version to the other. -/
theorem leads_of_reduce (reduced : r.dialect.reduce (.between before after) = .ok k) :
    r.Leads k before after := by
  obtain ⟨-, sameBefore, sameAfter⟩ := Dialect.reduce_fields reduced
  refine ⟨sameBefore, sameAfter, fun same => ?_, fun stays a =>
    declares_of_reduce reduced stays⟩
  rw [Dialect.concerns_reduce_of_ne reduced (by decide) (by decide) (by decide)] at same
  simpa [Change.concerns, Column.differ] using same

/-- So does the change itself. -/
theorem leads_between (r : Release) (before after : Column) :
    r.Leads (.between before after) before after := by
  refine ⟨rfl, rfl, fun same => ?_, fun stays a declared => ?_⟩
  · simpa [Change.concerns, Column.differ] using same
  · have untyped : (Change.between before after).concernsType = false := by
      rw [Change.concernsType, concerns_of_stays (a := .type) stays rfl,
        concerns_of_stays (a := .length) stays rfl]
      rfl
    have reduced := Dialect.reduce_of_not_concernsType (d := r.dialect) untyped
    refine declares_of_reduce reduced
      (Change.altersDefinition_eq_false_iff.2 fun b hb => ?_) declared
    rw [Change.concerns_without, concerns_of_stays stays hb, Bool.and_false]

end Release

namespace Dialect

variable {before after : Column} {k : Change} {old new : Row}

/-- **What becomes of a default constraint.** Either it is made anew, the old one being gone, or it
is left alone and the defaults agree. -/
theorem MakesChanged.default_cases (h : r.dialect.MakesChanged table k old new)
    (leads : r.Leads k before after)
    (constrained : before.hasConstraint = old.default.isSome) :
    ((k.dropsConstraint = true ∨ old.default = none) ∧
      Option.Rel (fun value e => e.name = Sql.constraintName table after.name ∧
        value.HasLiteral e.literal) after.constrainedDefault? new.default) ∨
    (k.dropsConstraint = false ∧ Column.defaultsAgree before.default after.default = true ∧
      new.default = old.default) := by
  obtain ⟨sameBefore, sameAfter, agree, -⟩ := leads
  have default := h.default
  by_cases again : (k.concerns .default || k.dropsConstraint) = true
  · have gone : k.dropsConstraint = true ∨ old.default = none := by
      by_cases drops : k.dropsConstraint = true
      · exact .inl drops
      · right
        have concerns : k.concerns .default = true := by simpa [drops] using again
        rw [Change.dropsConstraint, concerns, Bool.true_or, Bool.and_true, sameBefore,
          constrained] at drops
        simpa using drops
    have added : k.addedDefault? = after.constrainedDefault? := by
      unfold Change.addedDefault?
      rw [if_pos again, sameAfter]
    rw [added] at default
    refine .inl ⟨gone, ?_⟩
    cases hv : after.constrainedDefault? with
    | none =>
      rw [hv] at default
      have bare : new.default = none := by
        rw [default]
        split
        · rfl
        · next kept => exact gone.resolve_left kept
      rw [bare]
      exact .none
    | some value =>
      rw [hv] at default
      obtain ⟨literal, hl, e⟩ := default
      rw [e]
      exact .some ⟨by rw [sameAfter], DefaultValue.hasLiteral_of_ofDefault hl⟩
  · rw [Bool.not_eq_true, Bool.or_eq_false_iff] at again
    have added : k.addedDefault? = none := by simp [Change.addedDefault?, again]
    rw [added] at default
    simp only [again.2, Bool.false_eq_true, if_false] at default
    exact .inr ⟨again.2, agree again.1, default⟩

/-- The default constraint that a change leaves is the one the new version of the column needs. -/
theorem MakesChanged.default_realizes (h : r.dialect.MakesChanged table k old new)
    (leads : r.Leads k before after)
    (name : after.name = before.name) (realized : old.Realizes r table before) :
    Option.Rel (fun value e => e.name = Sql.constraintName table after.name ∧
      value.HasLiteral e.literal) after.constrainedDefault? new.default := by
  have constrained := isSome_eq_of_rel realized.default
  obtain ⟨-, made⟩ | ⟨-, agree, default⟩ := h.default_cases leads constrained
  · exact made
  · have realized := realized.default
    rw [default]
    obtain ⟨none, none'⟩ | ⟨v, w, hv, hw, same⟩ := Column.constrainedDefault?_of_agree agree
    · rw [none] at realized
      rw [none', eq_none_of_rel_none realized]
      exact .none
    · rw [hv] at realized
      obtain ⟨e, he, hk, literal⟩ := exists_of_rel_some realized
      rw [hw, he]
      exact .some ⟨by rw [hk, name], literal.of_agree same⟩

/-- A change leaves a default constraint exactly if the new version of its column needs one. -/
theorem MakesChanged.isSome_default (h : r.dialect.MakesChanged table k old new)
    (leads : r.Leads k before after)
    (constrained : before.hasConstraint = old.default.isSome) :
    new.default.isSome = after.hasConstraint := by
  obtain ⟨-, made⟩ | ⟨-, agree, default⟩ := h.default_cases leads constrained
  · exact (isSome_eq_of_rel made).symm
  · rw [default, ← constrained]
    unfold Column.hasConstraint
    obtain ⟨hv, hw⟩ | ⟨v, w, hv, hw, -⟩ := Column.constrainedDefault?_of_agree agree
    · rw [hv, hw]
    · rw [hv, hw]
      rfl

/-- A changed column is declared as its new version, if the change touches no identity. -/
theorem MakesChanged.declares (h : r.dialect.MakesChanged table k old new)
    (leads : r.Leads k before after)
    (plain : before.autoincrement = false ∧ after.autoincrement = false)
    (declared : r.Declares before old.attributes) : r.Declares after new.attributes := by
  have attributes := h.attributes
  by_cases alters : k.altersDefinition = true
  · rw [if_pos alters, leads.after] at attributes
    obtain ⟨declaration, declared', e⟩ := attributes
    obtain ⟨declaration₀, declared₀, e₀⟩ := declared
    obtain ⟨type, -, rfl⟩ := (declare_eq_ok_iff _ _ _).1 declared'
    obtain ⟨type₀, -, rfl⟩ := (declare_eq_ok_iff _ _ _).1 declared₀
    refine ⟨_, declared', ?_⟩
    rw [e, e₀]
    simp only [Declaration.attributes, plain.1, plain.2]
  · rw [if_neg alters] at attributes
    rw [attributes]
    exact leads.declares (by simpa using alters) _ declared

/-- **A changed column is realized**, if the change keeps its name and touches no identity. -/
theorem MakesChanged.realizes (h : r.dialect.MakesChanged table k old new)
    (leads : r.Leads k before after) (name : after.name = before.name)
    (plain : before.autoincrement = false ∧ after.autoincrement = false)
    (realized : old.Realizes r table before) : new.Realizes r table after where
  name := leads.after ▸ h.name
  attributes := h.declares leads plain realized.attributes
  default := h.default_realizes leads name realized

end Dialect

end TsqlAlter
