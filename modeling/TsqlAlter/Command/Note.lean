import TsqlAlter.Plan.Platform

/-!
# Notes on the way

What a run tells about its work, apart from its result. The selection of a platform is told always,
everything else only on demand. Notes are computed beside the statements, from the same reductions,
and stop where these stop.

Left out: the time and the place that a logger puts in front of a note.
-/

namespace TsqlAlter

/-- Something worth telling. -/
inductive Note where
  | loadingSettings (path : String)
  | selected (platform : String) (hints : Nat)
  | ignoringUnsigned (column : String)
  | ignoringType (column type : String)
  | droppingChange (column : String)
  | generated (table platform : String) (handled delegated : Nat)
  | compiled (table : String) (statements : Nat)
deriving DecidableEq, Repr

namespace Note

/-- Told only on demand. -/
def isDetail : Note → Bool
  | selected .. => false
  | _ => true

/-- The words of a note. -/
def message : Note → String
  | loadingSettings path => "Loading platform configuration path=" ++ path
  | selected platform hints =>
    "Selected SQL Server platform platform=" ++ Text.quoted platform ++ " lock_hints=" ++
      toString hints
  | ignoringUnsigned column => "Ignoring unsigned change column=" ++ column
  | ignoringType column type =>
    "Ignoring type change with identical SQL type column=" ++ column ++ " sql_type=" ++ type
  | droppingChange column =>
    "Dropping column change with nothing left to alter column=" ++ column
  | generated table platform handled delegated =>
    "Generated ALTER TABLE statements table=" ++ table ++ " platform=" ++ Text.quoted platform ++
      " handled=" ++ toString handled ++ " delegated=" ++ toString delegated
  | compiled table statements =>
    "Compiled table diff table=" ++ table ++ " statements=" ++ toString statements

/-- The note behind its level. -/
def text (n : Note) : String := (if n.isDetail then "DEBUG " else " INFO ") ++ n.message

end Note

namespace Dialect

/-- What reducing a change tells. -/
def changeNotes (d : Dialect) (c : Change) : List Note :=
  (if c.concerns .unsigned then [.ignoringUnsigned c.oldName] else []) ++
  (match c.concernsType, d.comparedTypes c with
    | true, .ok (before, after) =>
      if before = after then [.ignoringType c.oldName before] else []
    | _, _ => []) ++
  (match d.reduce? c with
    | .ok none => [.droppingChange c.oldName]
    | _ => [])

/-- What reducing changes tells, up to the first one that fails. -/
def changesNotes (d : Dialect) : List Change → List Note
  | [] => []
  | c :: more =>
    match d.reduce? c with
    | .error _ => d.changeNotes c
    | .ok _ => d.changeNotes c ++ d.changesNotes more

end Dialect

namespace Platform

/-- How many statements of a diff the platform makes itself, and how many its fallback. -/
def shares (p : Platform) (diff : TableDiff) : Except Error (Nat × Nat) := do
  let (own, rest) ← p.prepare diff
  let delegated ← p.fallback rest
  return (own.length, delegated.length)

/-- What compiling a diff tells. -/
def compileNotes (p : Platform) (diff : TableDiff) : List Note :=
  p.dialect.changesNotes diff.changed ++
    match p.shares diff with
    | .ok (handled, delegated) => [.generated diff.name p.dialect.name handled delegated]
    | .error _ => []

end Platform

end TsqlAlter
