import TsqlAlter.Diff.Change

/-!
# Table diffs

What has to happen to one table: columns added, removed, changed and renamed, each in the given
order, and perhaps a new name for the table. Nothing keeps the entries of a diff from contradicting
each other, such as a column that is removed and changed; what is said of the diffs that fit a table
is said where tables are.

Left out: how a diff is found. It is read from a file, or put together by a host.
-/

namespace TsqlAlter

/-- A column under a new name. -/
structure Rename where
  oldName : String
  column : Column
deriving DecidableEq, Repr

/-- The changes of one table. -/
structure TableDiff where
  name : String
  newName : Option String := none
  added : List Column := []
  removed : List Column := []
  changed : List Change := []
  renamed : List Rename := []
deriving DecidableEq

namespace TableDiff

/-- Nothing happens to the table. -/
def isEmpty (d : TableDiff) : Bool :=
  d.newName.isNone && d.added.isEmpty && d.removed.isEmpty && d.changed.isEmpty &&
    d.renamed.isEmpty

/-- The first change of the column with an old name. -/
def change? (d : TableDiff) (oldName : String) : Option Change :=
  d.changed.find? (·.oldName == oldName)

/-! ## Building a diff -/

/-- The diff with a further column to add. -/
def add (d : TableDiff) (c : Column) : TableDiff := { d with added := d.added ++ [c] }

/-- The diff with a further column to remove. -/
def remove (d : TableDiff) (c : Column) : TableDiff := { d with removed := d.removed ++ [c] }

/-- The diff with a further change. -/
def change (d : TableDiff) (c : Change) : TableDiff := { d with changed := d.changed ++ [c] }

/-- The diff with a further column under a new name. -/
def rename (d : TableDiff) (oldName : String) (c : Column) : TableDiff :=
  { d with renamed := d.renamed ++ [⟨oldName, c⟩] }

/-- The diff with a new name for the table. -/
def renameTo (d : TableDiff) (newName : String) : TableDiff := { d with newName := some newName }

end TableDiff

end TsqlAlter
