import TsqlAlter.Plan.Dialect

/-!
# Compiling a diff column by column

The plain compiler of a dialect. Defaults are added by statements of their own, after the column.
A column cannot be redefined while a default constraint depends on it, so an old constraint is
dropped first and the default is added again afterwards. A change that also renames the column does
so first and goes on under the new name, apart from the constraint, which kept its old name.

Results:
* `changeStatements_of_isEmpty`: a change that concerns nothing has no statement.

Left out: indexes, keys and constraints other than those of defaults. No diff speaks of them.
-/

namespace TsqlAlter

namespace Change

/-- The change renames the column. -/
def renames (c : Change) : Bool := c.concerns .name && c.oldName != c.after.name

/-- The constraint of the old default has to go. -/
def dropsConstraint (c : Change) : Bool :=
  c.before.hasConstraint && (c.concerns .default || c.altersDefinition)

/-- The new default, if the change has to add it. -/
def addedDefault? (c : Change) : Option DefaultValue :=
  if c.concerns .default || c.dropsConstraint then c.after.constrainedDefault? else none

end Change

namespace Dialect

/-- Adds the default constraint of a column, if there is a default. -/
def defaultStatement (d : Dialect) (table : String) (c : Column) :
    Option DefaultValue → Except Error (List Statement)
  | none => .ok []
  | some value => do
    let constraint ← d.constraint table c value
    return [.addDefault table constraint c.name]

/-- Adds a column, then its default. -/
def additionStatements (d : Dialect) (table : String) (c : Column) :
    Except Error (List Statement) := do
  let declaration ← d.declare c
  let default ← d.defaultStatement table c c.constrainedDefault?
  return .addColumn table declaration none :: default

/-- Redefines a column, if the change does so. -/
def redefinition (d : Dialect) (table : String) (c : Change) : Except Error (List Statement) :=
  if c.altersDefinition then (d.declare c.after).map fun declaration =>
    [.alterColumn table declaration]
  else .ok []

/-- Changes a column. -/
def changeStatements (d : Dialect) (table : String) (c : Change) :
    Except Error (List Statement) := do
  let rename := if c.renames then [.renameColumn table c.oldName c.after.name] else []
  let drop :=
    if c.dropsConstraint then [.dropDefault table (Sql.constraintName table c.oldName)] else []
  let redefine ← d.redefinition table c
  let default ← d.defaultStatement table c.after c.addedDefault?
  return rename ++ drop ++ redefine ++ default

/-- The statements of entries, one entry after the other. -/
def forEach {α : Type} (f : α → Except Error (List Statement)) :
    List α → Except Error (List Statement)
  | [] => .ok []
  | a :: more => do
    let first ← f a
    let rest ← forEach f more
    return first ++ rest

/-- Removes the columns of a diff. -/
def removals (diff : TableDiff) : List Statement :=
  diff.removed.map fun c => .dropColumn diff.name c.name

/-- Renames the columns of a diff. -/
def columnRenames (diff : TableDiff) : List Statement :=
  diff.renamed.map fun r => .renameColumn diff.name r.oldName r.column.name

/-- Renames the table, if the diff does so. -/
def tableRename (diff : TableDiff) : List Statement :=
  (diff.newName.map fun newName => Statement.renameTable diff.name newName).toList

/-- The plain compiler of a dialect. -/
def stepwise (d : Dialect) : Compiler := fun diff => do
  let additions ← forEach (d.additionStatements diff.name) diff.added
  let changes ← forEach (d.changeStatements diff.name) (diff.changed.filter (!·.isEmpty))
  return additions ++ removals diff ++ changes ++ columnRenames diff ++ tableRename diff

/-- A change that concerns nothing has no statement. -/
theorem changeStatements_of_isEmpty (d : Dialect) (table : String) {c : Change}
    (h : c.isEmpty = true) : d.changeStatements table c = .ok [] := by
  have concerns (a : Attribute) : c.concerns a = false := (AttributeSet.isEmpty_iff _).1 h a
  have alters : c.altersDefinition = false := by
    rw [← Bool.not_eq_true, Change.altersDefinition, AttributeSet.altersDefinition_iff]
    rintro ⟨a, ha, _⟩
    exact Bool.false_ne_true ((concerns a).symm.trans ha)
  have drops : c.dropsConstraint = false := by
    simp [Change.dropsConstraint, concerns, alters]
  simp only [changeStatements, Change.renames, Change.addedDefault?, redefinition, concerns,
    alters, drops]
  rfl

end Dialect

end TsqlAlter
