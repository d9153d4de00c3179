import TsqlAlter.Lock
import TsqlAlter.Plan.Noise
import TsqlAlter.Plan.Stepwise

/-!
# The platform

A platform compiles diffs for a release of the server. It takes over what the server needs done
otherwise and leaves the rest to a fallback compiler:

* changes without effect are dropped;
* an added column gets its default in the same statement, so that one without nulls can be added
  to a table that holds rows;
* the default constraint of a removed column is dropped first, if it is there.

The fallback sees the reduced changes and no added column.

Results:
* `compileAsking_of_error`: a platform whose own part fails does not ask its fallback.
* `compile_of_prepare`: the platform's own statements stand before the answer of the fallback.

Left out: what a fallback does. It is any function from a diff to statements or an error, and may
have effects (`compileAsking`).
-/

namespace TsqlAlter

namespace Dialect

/-- Adds a column with its default constraint. -/
def inlineAddition (d : Dialect) (table : String) (c : Column) : Except Error (List Statement) := do
  let declaration ← d.declare c
  match c.constrainedDefault? with
  | none => return [.addColumn table declaration none]
  | some value =>
    let constraint ← d.constraint table c value
    return [.addColumn table declaration (some constraint)]

end Dialect

/-- Drops the default constraints of the removed columns, those that are there. -/
def guardedDrops (diff : TableDiff) : List Statement :=
  (diff.removed.filter Column.hasConstraint).map fun c =>
    .dropDefaultIfExists diff.name (Sql.constraintName diff.name c.name)

/-- A release of the server, the compiler for what the platform leaves, and its lock hints. -/
structure Platform where
  release : Release
  fallback : Compiler
  hints : HintTable := .standard

namespace Platform

/-- The platform of a release over its plain compiler. -/
def ofRelease (r : Release) : Platform where
  release := r
  fallback := r.dialect.stepwise

/-- The platform of the release that a version selects. -/
def ofVersion (version : String) : Except Error Platform :=
  (Release.ofVersion version).map ofRelease

/-- The dialect of the platform's release. -/
def dialect (p : Platform) : Dialect := p.release.dialect

/-- What the fallback is asked to compile, from a diff with reduced changes. -/
def residual (diff : TableDiff) : TableDiff := { diff with added := [] }

/-- The statements of a diff that the platform makes itself, from a diff with reduced changes. -/
def handled (p : Platform) (diff : TableDiff) : Except Error (List Statement) :=
  (Dialect.forEach (p.dialect.inlineAddition diff.name) diff.added).map (· ++ guardedDrops diff)

/-- The statements that the platform makes itself, and the diff it leaves to the fallback. -/
def prepare (p : Platform) (diff : TableDiff) : Except Error (List Statement × TableDiff) :=
  match p.dialect.reduceDiff diff with
  | (_, some e) => .error e
  | (reduced, none) => (p.handled reduced).map fun own => (own, residual reduced)

/-- The statements of a diff, with a fallback whose answers may come with effects. -/
def compileAsking {m : Type → Type} [Monad m] (p : Platform)
    (ask : TableDiff → m (Except Error (List Statement))) (diff : TableDiff) :
    m (Except Error (List Statement)) :=
  match p.prepare diff with
  | .error e => pure (.error e)
  | .ok (own, rest) => do
    let answer ← ask rest
    return answer.map (own ++ ·)

/-- The statements of a diff: the platform's own, then those of the fallback. -/
def compile (p : Platform) : Compiler := fun diff =>
  Id.run (p.compileAsking (fun rest => pure (p.fallback rest)) diff)

/-- The platform with a hint for a lock mode. -/
def setHint (p : Platform) (mode : LockMode) (hint : String) : Platform :=
  { p with hints := p.hints.set mode hint }

/-- The platform with other hints. -/
def setHints (p : Platform) (hints : HintTable) : Platform := { p with hints := hints }

/-- A FROM clause with the hint of a lock mode. -/
def appendHint (p : Platform) (clause : String) (mode : LockMode) : String :=
  p.hints.append clause mode

/-- A platform whose own part fails does not ask its fallback. -/
theorem compileAsking_of_error {m : Type → Type} [Monad m] {p : Platform} {diff : TableDiff}
    {e : Error} (ask : TableDiff → m (Except Error (List Statement)))
    (h : p.prepare diff = .error e) : p.compileAsking ask diff = pure (.error e) := by
  unfold compileAsking
  rw [h]

/-- Once its own part is done, a platform asks its fallback about what is left. -/
theorem compileAsking_of_ok {m : Type → Type} [Monad m] {p : Platform} {diff rest : TableDiff}
    {own : List Statement} (ask : TableDiff → m (Except Error (List Statement)))
    (h : p.prepare diff = .ok (own, rest)) :
    p.compileAsking ask diff = (do let answer ← ask rest; return answer.map (own ++ ·)) := by
  unfold compileAsking
  rw [h]

/-- An error in the platform's own part is the answer. -/
theorem compile_eq_error_of_prepare {p : Platform} {diff : TableDiff} {e : Error}
    (h : p.prepare diff = .error e) : p.compile diff = .error e := by
  unfold compile
  rw [compileAsking_of_error _ h]
  rfl

/-- The answer once the platform's own part is done. -/
theorem compile_of_prepare {p : Platform} {diff rest : TableDiff} {own : List Statement}
    (h : p.prepare diff = .ok (own, rest)) :
    p.compile diff = (p.fallback rest).map (own ++ ·) := by
  unfold compile
  rw [compileAsking_of_ok _ h]
  rfl

end Platform

end TsqlAlter
