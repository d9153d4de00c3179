import Mathlib.Data.List.Forall2
import TsqlAlter.Plan.Platform
import TsqlAlter.Proofs.Noise

/-!
# What a platform leaves to its fallback

A platform stands before a fallback compiler about which nothing is known: it may fail, and its
answers may come with effects. The platform asks it once, about the diff without its added columns
and with its changes reduced, and only after the changes and the added columns have not failed.

Platforms can be stacked, the fallback of one being the other. The older release then decides which
changes are left, the columns are added by the outer platform, and both drop the constraints of the
removed columns.

`firstFailure?` is why a diff fails before the fallback is asked, and `Adds` says of a statement
that it adds a column with its default.

Results:
* `prepare_eq`: a platform's own part, step by step.
* `compileAsking_residual`: what the fallback is asked, and what becomes of its answer.
* `compile_stacked`: the statements of two platforms on top of each other.

Left out: what a fallback makes of the statements that stand before its own. It does not see them.
-/

namespace TsqlAlter

namespace Dialect

/-! ## Added columns -/

/-- The statement adds the column, with its default if that needs a constraint. -/
def Adds (d : Dialect) (table : String) (c : Column) (s : Statement) : Prop :=
  ∃ declaration default, d.declare c = .ok declaration ∧
    s = .addColumn table declaration default ∧
    match c.constrainedDefault? with
    | none => default = none
    | some value => ∃ literal, d.literal c.name value = .ok literal ∧
        default = some ⟨Sql.constraintName table c.name, literal⟩

/-- Why a column cannot be added: its type first, then its default. -/
def additionFailure? (d : Dialect) (c : Column) : Option Error :=
  (failure? (d.declare c)).or
    (c.constrainedDefault?.bind fun value => failure? (d.literal c.name value))

variable {d : Dialect} {table : String} {c : Column}

theorem failure?_inlineAddition (d : Dialect) (table : String) (c : Column) :
    failure? (d.inlineAddition table c) = d.additionFailure? c := by
  unfold inlineAddition additionFailure?
  cases d.declare c with
  | error e => rfl
  | ok declaration =>
    cases c.constrainedDefault? with
    | none => rfl
    | some value =>
      unfold constraint
      cases hl : d.literal c.name value <;>
        simp [hl, Except.map, bind, Except.bind, pure, Except.pure]

theorem inlineAddition_eq_ok_iff {ss : List Statement} :
    d.inlineAddition table c = .ok ss ↔ ∃ s, d.Adds table c s ∧ ss = [s] := by
  unfold inlineAddition Adds
  cases d.declare c with
  | error e => simp [bind, Except.bind]
  | ok declaration =>
    cases c.constrainedDefault? with
    | none => simp [bind, Except.bind, pure, Except.pure, eq_comm]
    | some value =>
      unfold constraint
      cases hl : d.literal c.name value with
      | error e => simp [hl, bind, Except.bind, Except.map]
      | ok literal => simp [hl, bind, Except.bind, Except.map, pure, Except.pure, eq_comm]

/-- One statement for each added column. -/
theorem exists_adds_of_forEach {cs : List Column} {ss : List Statement}
    (h : forEach (d.inlineAddition table) cs = .ok ss) : List.Forall₂ (d.Adds table) cs ss := by
  induction cs generalizing ss with
  | nil =>
    cases h
    exact .nil
  | cons c more ih =>
    obtain ⟨first, rest, hf, hr, rfl⟩ := forEach_cons_eq_ok_iff.1 h
    obtain ⟨s, hs, rfl⟩ := inlineAddition_eq_ok_iff.1 hf
    exact .cons hs (ih hr)

end Dialect

namespace Platform

variable {p : Platform} {d : TableDiff}

/-- **The platform's own part.** The changes are reduced, then the columns are added. -/
theorem prepare_eq (p : Platform) (d : TableDiff) :
    p.prepare d = (p.dialect.kept d.changed >>= fun ks =>
      (Dialect.forEach (p.dialect.inlineAddition d.name) d.added).map fun additions =>
        (additions ++ guardedDrops d, { d with added := [], changed := ks })) := by
  unfold prepare Dialect.reduceDiff
  cases hk : p.dialect.kept d.changed with
  | error e =>
    have failed := Dialect.kept_eq_error_iff.1 hk
    match hr : p.dialect.reduceAll d.changed with
    | (ks, none) => rw [hr] at failed; cases failed
    | (ks, some e') => rw [hr] at failed; cases failed; rfl
  | ok ks =>
    rw [Dialect.kept_eq_ok_iff.1 hk]
    show (p.handled _).map _ = _
    unfold handled
    cases Dialect.forEach (p.dialect.inlineAddition d.name) d.added <;> rfl

/-- Why a diff fails before the fallback is asked: the changes first, then the added columns. -/
def firstFailure? (p : Platform) (d : TableDiff) : Option Error :=
  (d.changed.findSome? fun c => failure? (p.dialect.reduce? c)).or
    (d.added.findSome? p.dialect.additionFailure?)

theorem failure?_prepare (p : Platform) (d : TableDiff) :
    failure? (p.prepare d) = p.firstFailure? d := by
  rw [prepare_eq, failure?_bind, firstFailure?, ← Dialect.failure?_kept]
  cases p.dialect.kept d.changed with
  | error e => rfl
  | ok ks =>
    show failure? (Except.map _ _) = Option.or none _
    rw [failure?_map, Dialect.failure?_forEach, Option.none_or]
    simp only [Dialect.failure?_inlineAddition]

/-- **The fallback is asked once, about what is left.** If a change or an added column fails, the
first such failure is the answer and the fallback is not asked. Otherwise it is asked about the diff
without added columns and with what is left of the changes; the statements that add the columns and
those that drop the constraints of removed columns stand before its own, and its failure is the
answer. A compiler without effects is asked in the same way. -/
theorem compileAsking_residual {m : Type → Type} [Monad m] (p : Platform)
    (ask : TableDiff → m (Except Error (List Statement))) (d : TableDiff) :
    (∀ e, p.firstFailure? d = some e → p.compileAsking ask d = pure (.error e)) ∧
    (p.firstFailure? d = none → ∃ additions,
      List.Forall₂ (p.dialect.Adds d.name) d.added additions ∧
      p.compileAsking ask d = do
        let answer ← ask { d with
          added := []
          changed := d.changed.filterMap fun c => (p.dialect.reduce? c).toOption.join }
        return answer.map fun delegated => additions ++
          ((d.removed.filter Column.hasConstraint).map fun c =>
            .dropDefaultIfExists d.name (Sql.constraintName d.name c.name)) ++ delegated) ∧
    p.compile d = Id.run (p.compileAsking (fun rest => pure (p.fallback rest)) d) := by
  rw [← failure?_prepare]
  refine ⟨fun e failed => ?_, fun succeeded => ?_, rfl⟩
  · exact compileAsking_of_error ask (failure?_eq_some_iff.1 failed)
  · obtain ⟨⟨own, rest⟩, prepared⟩ := failure?_eq_none_iff.1 succeeded
    rw [compileAsking_of_ok ask prepared]
    rw [prepare_eq] at prepared
    obtain ⟨ks, hk, prepared⟩ := bind_eq_ok_iff.1 prepared
    obtain ⟨additions, ha, e⟩ := map_eq_ok_iff.1 prepared
    cases e
    rw [Dialect.eq_filterMap_of_kept hk]
    exact ⟨additions, Dialect.exists_adds_of_forEach ha, rfl⟩

/-- A change to a wider type. -/
def widenedScore : Change :=
  .between { name := "score", type := .integer } { name := "score", type := .bigint }

/-- A diff with a column to add, one to remove that has a default, and two changes, the first one
without effect. -/
def mixed : TableDiff where
  name := "orders"
  added := [{ name := "amount", type := .integer, default := some (.integer 0) }]
  removed := [{ name := "status", type := .integer, default := some (.integer 1) }]
  changed := [
    .between { name := "stock", type := .integer }
      { name := "stock", type := .integer, unsigned := true },
    widenedScore]

/-- A compiler that writes down what it is asked. -/
def recording (d : TableDiff) : StateM (List TableDiff) (Except Error (List Statement)) := do
  modify (· ++ [d])
  return .ok []

/-- The law at that diff. The fallback is asked once, about the removed column and the second
change. -/
theorem compileAsking_residual_mixed :
    (ofRelease .sql2008).firstFailure? mixed = none ∧ ∃ additions,
      List.Forall₂ (Release.sql2008.dialect.Adds "orders") mixed.added additions ∧
      ((ofRelease .sql2008).compileAsking recording mixed).run [] =
        (.ok (additions ++ [.dropDefaultIfExists "orders" "DF_E52FFDEE_7B00651C"]),
          [{ name := "orders", removed := mixed.removed, changed := [widenedScore] }]) := by
  have succeeded : (ofRelease .sql2008).firstFailure? mixed = none := by decide +kernel
  obtain ⟨additions, adds, asked⟩ :=
    (compileAsking_residual (ofRelease .sql2008) recording mixed).2.1 succeeded
  have left : mixed.changed.filterMap (fun c =>
      ((ofRelease .sql2008).dialect.reduce? c).toOption.join) = [widenedScore] := by
    have signed : widenedScore.without .unsigned = widenedScore :=
      Change.without_eq_self (by decide)
    exact (rfl : _ = [widenedScore.without .unsigned]).trans (by rw [signed])
  have dropped : ((mixed.removed.filter Column.hasConstraint).map fun c =>
      Statement.dropDefaultIfExists mixed.name (Sql.constraintName mixed.name c.name)) =
        [.dropDefaultIfExists "orders" "DF_E52FFDEE_7B00651C"] := by
    decide +kernel
  refine ⟨succeeded, additions, adds, ?_⟩
  rw [asked, left, dropped]
  show (Except.ok (additions ++ _ ++ []), _) = _
  rw [List.append_nil]
  rfl

/-! ## Platforms on top of each other -/

/-- The statements of a platform, step by step. -/
theorem compile_eq (r : Release) (fallback : Compiler) (hints : HintTable) (d : TableDiff) :
    (Platform.mk r fallback hints).compile d = do
      let changed ← r.dialect.kept d.changed
      let additions ← Dialect.forEach (r.dialect.inlineAddition d.name) d.added
      let delegated ← fallback { d with added := [], changed := changed }
      return additions ++ guardedDrops d ++ delegated := by
  have prepared := prepare_eq ⟨r, fallback, hints⟩ d
  change _ = (r.dialect.kept d.changed >>= fun ks =>
    (Dialect.forEach (r.dialect.inlineAddition d.name) d.added).map _) at prepared
  cases hk : r.dialect.kept d.changed with
  | error e =>
    rw [hk] at prepared
    exact compile_eq_error_of_prepare prepared
  | ok ks =>
    cases ha : Dialect.forEach (r.dialect.inlineAddition d.name) d.added with
    | error e =>
      rw [hk, ha] at prepared
      exact compile_eq_error_of_prepare prepared
    | ok additions =>
      rw [hk, ha] at prepared
      rw [compile_of_prepare prepared]
      show (fallback _).map _ = fallback _ >>= _
      cases fallback { d with added := [], changed := ks } <;> rfl

/-- **Platforms on top of each other.** The changes are reduced for the older release, the outer
platform adds the columns, and both drop the constraints of the removed columns. A platform on top
of one of its own or a newer release so differs from the platform alone by the repeated drops. -/
theorem compile_stacked (v w : Release) (fallback : Compiler) (outer inner : HintTable)
    (d : TableDiff) :
    (Platform.mk v (Platform.mk w fallback inner).compile outer).compile d = (do
      let changed ← (v.older w).dialect.kept d.changed
      let additions ← Dialect.forEach (v.dialect.inlineAddition d.name) d.added
      let delegated ← fallback { d with added := [], changed := changed }
      return additions ++ guardedDrops d ++ guardedDrops d ++ delegated) ∧
    (v.rank ≤ w.rank → v.older w = v) ∧
    (Platform.mk v fallback outer).compile d = (do
      let changed ← v.dialect.kept d.changed
      let additions ← Dialect.forEach (v.dialect.inlineAddition d.name) d.added
      let delegated ← fallback { d with added := [], changed := changed }
      return additions ++ guardedDrops d ++ delegated) ∧
    ∀ cs, (v.dialect.kept cs >>= w.dialect.kept) = (v.older w).dialect.kept cs ∧
      (w.dialect.kept cs >>= v.dialect.kept) = (v.older w).dialect.kept cs := by
  refine ⟨?_, Release.older_eq_left, compile_eq v fallback outer d, fun cs => ?_⟩
  · have both := Release.kept_bind_kept v w d.changed
    rw [compile_eq]
    simp only [compile_eq]
    cases hv : v.dialect.kept d.changed with
    | error e =>
      rw [hv] at both
      rw [← both]
      rfl
    | ok ks =>
      rw [hv] at both
      have both : w.dialect.kept ks = (v.older w).dialect.kept d.changed := both
      obtain ⟨ls, hl⟩ := Release.exists_kept_of_ok hv (v.older w)
      rw [hl]
      cases Dialect.forEach (v.dialect.inlineAddition d.name) d.added with
      | error e => rfl
      | ok additions =>
        -- the inner platform has no column to add and the same columns to remove
        show (w.dialect.kept ks >>= fun _ => _) >>= _ = fallback _ >>= _
        rw [both, hl]
        show (fallback { d with added := [], changed := ls } >>= _) >>= _ = _
        cases fallback { d with added := [], changed := ls } with
        | error e => rfl
        | ok delegated =>
          show Except.ok (additions ++ guardedDrops d ++ ([] ++ guardedDrops d ++ delegated)) = _
          simp only [List.nil_append, List.append_assoc]
          rfl
  · rw [Release.kept_bind_kept, Release.kept_bind_kept, Release.older_comm w v]
    exact ⟨rfl, rfl⟩

/-- A column that is to hold a time of day beside the date. The oldest release has one type for
both. -/
def timedDue : Change :=
  .between { name := "due", type := .date } { name := "due", type := .datetime }

/-- The platform alone drops the default once and changes the column; on top of the oldest release
it drops the default twice, and the change is without effect. -/
example :
    let d : TableDiff := { name := "orders", removed := mixed.removed, changed := [timedDue] }
    let drop := Statement.dropDefaultIfExists "orders" "DF_E52FFDEE_7B00651C"
    let due : Declaration := ⟨"due", "DATETIME2(6)", false, none, true⟩
    (ofRelease .sql2008).compile d =
      .ok [drop, .dropColumn "orders" "status", .alterColumn "orders" due] ∧
    { ofRelease .sql2008 with fallback := (ofRelease .sql2000).compile }.compile d =
      .ok [drop, drop, .dropColumn "orders" "status"] := by
  decide +kernel

end Platform

end TsqlAlter
