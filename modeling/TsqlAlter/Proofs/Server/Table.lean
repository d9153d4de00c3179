import Mathlib
import TsqlAlter.Sql.Statement

/-!
# Tables on the server

What the server makes of a statement. A table has columns, found by their names, and default
constraints, found by theirs, each of which depends on a column. A statement is refused if what it
names is missing, if what it adds is there already, or if a default constraint depends on the column
it drops or redefines. Renaming a column or the table changes that name only: the default
constraints keep theirs, and so only a new constraint is sure to be named after its table and its
column.

`Table` holds the columns and the constraints, and `Statement.exec` is the table after a statement,
if there is one.

Results:
* `hasDefault_iff`: which columns a default constraint depends on.
* `column_renameColumn`: which default constraints depend on a column after a rename.
* `execAll_append`: statements are executed one after the other.
* `WellNamed`: every default constraint is named after its table and its column.

Left out: the rows of a table, its indexes and its other constraints, and so refusals on account of
them: a column that must not be null is added to any table.
-/

namespace TsqlAlter

open Std (ExtTreeMap)

/-- A column as the server keeps it, its name and its default apart. -/
structure Attributes where
  /-- The SQL type. -/
  type : String
  identity : Bool
  collation : Option String
  nullable : Bool
deriving DecidableEq, Repr

/-- What a declaration says of its column. -/
def Declaration.attributes (d : Declaration) : Attributes where
  type := d.type
  identity := d.identity
  collation := d.collation
  nullable := d.nullable

/-- A default as the server keeps it: its column, and its literal. -/
structure ColumnDefault where
  column : String
  literal : String
deriving DecidableEq, Repr

/-- A table on the server. -/
structure Table where
  name : String
  columns : ExtTreeMap String Attributes := ∅
  /-- The default constraints, by their names. -/
  constraints : ExtTreeMap String ColumnDefault := ∅

namespace Table

variable {t u : Table}

/-- A default constraint depends on the column. -/
def hasDefault (t : Table) (column : String) : Bool :=
  t.constraints.toList.any fun e => e.2.column == column

theorem hasDefault_iff {column : String} :
    t.hasDefault column = true ↔
      ∃ (k : String) (e : ColumnDefault), t.constraints[k]? = some e ∧ e.column = column := by
  unfold hasDefault
  rw [List.any_eq_true]
  constructor
  · rintro ⟨⟨k, e⟩, he, hc⟩
    exact ⟨k, e, ExtTreeMap.mem_toList_iff_getElem?_eq_some.1 he, by simpa using hc⟩
  · rintro ⟨k, e, he, hc⟩
    exact ⟨(k, e), ExtTreeMap.mem_toList_iff_getElem?_eq_some.2 he, by simpa using hc⟩

/-! ## What statements change -/

/-- The table with a column, in the place of one of that name. -/
def setColumn (t : Table) (column : String) (a : Attributes) : Table :=
  { t with columns := t.columns.insert column a }

/-- The table without a column. -/
def dropColumn (t : Table) (column : String) : Table :=
  { t with columns := t.columns.erase column }

/-- The table with a default constraint on a column. -/
def setDefault (t : Table) (column : String) (c : DefaultConstraint) : Table :=
  { t with constraints := t.constraints.insert c.name ⟨column, c.literal⟩ }

/-- The table without a default constraint. -/
def dropDefault (t : Table) (constraint : String) : Table :=
  { t with constraints := t.constraints.erase constraint }

/-- The table with a column under a new name. The default constraints follow the column. -/
def renameColumn (t : Table) (oldName newName : String) (a : Attributes) : Table where
  name := t.name
  columns := (t.columns.erase oldName).insert newName a
  constraints := t.constraints.map fun _ e =>
    if e.column = oldName then { e with column := newName } else e

/-- A constraint after a rename is the old one, on the column it had or on the renamed one. -/
theorem column_renameColumn {oldName newName k column literal : String} {a : Attributes} :
    (t.renameColumn oldName newName a).constraints[k]? = some ⟨column, literal⟩ ↔
      (column = newName ∧ t.constraints[k]? = some ⟨oldName, literal⟩) ∨
      (column ≠ oldName ∧ t.constraints[k]? = some ⟨column, literal⟩) := by
  unfold renameColumn
  rw [ExtTreeMap.getElem?_map]
  cases t.constraints[k]? with
  | none => simp
  | some e =>
    obtain ⟨c, l⟩ := e
    by_cases hc : c = oldName
    · subst hc
      simp only [Option.map_some, if_true, Option.some.injEq, ColumnDefault.mk.injEq]
      grind
    · simp only [Option.map_some, if_neg hc, Option.some.injEq, ColumnDefault.mk.injEq]
      grind

end Table

/-! ## Statements -/

/-- **The table after a statement**, none if the server refuses it. A redefined column keeps its
identity, which it got when it was added. A statement held as text is not known, and refused. -/
def Statement.exec (t : Table) : Statement → Option Table
  | addColumn table column default =>
    if t.name = table ∧ column.name ∉ t.columns then
      let added := t.setColumn column.name column.attributes
      match default with
      | none => some added
      | some c =>
        if c.name ∉ t.constraints then some (added.setDefault column.name c) else none
    else none
  | dropColumn table column =>
    if t.name = table ∧ column ∈ t.columns ∧ t.hasDefault column = false then
      some (t.dropColumn column)
    else none
  | alterColumn table column =>
    if t.name = table ∧ t.hasDefault column.name = false then
      t.columns[column.name]?.map fun a =>
        t.setColumn column.name { column.attributes with identity := a.identity }
    else none
  | addDefault table c column =>
    if t.name = table ∧ column ∈ t.columns ∧ t.hasDefault column = false ∧
        c.name ∉ t.constraints then
      some (t.setDefault column c)
    else none
  | dropDefault table constraint =>
    if t.name = table ∧ constraint ∈ t.constraints then some (t.dropDefault constraint) else none
  | dropDefaultIfExists table constraint =>
    if t.name = table then some (t.dropDefault constraint) else none
  | renameColumn table oldName newName =>
    if t.name = table ∧ newName ∉ t.columns then
      t.columns[oldName]?.map fun a => t.renameColumn oldName newName a
    else none
  | renameTable oldName newName =>
    if t.name = oldName then some { t with name := newName } else none
  | verbatim _ => none

namespace Table

variable {t : Table}

/-- The table after statements, none if the server refuses one of them. -/
def execAll (t : Table) (ss : List Statement) : Option Table := ss.foldlM Statement.exec t

/-- Statements are executed one after the other. -/
theorem execAll_append (t : Table) (ss more : List Statement) :
    t.execAll (ss ++ more) = (t.execAll ss).bind fun u => u.execAll more := List.foldlM_append

theorem execAll_singleton (t : Table) (s : Statement) : t.execAll [s] = s.exec t := by
  unfold execAll
  rw [List.foldlM_cons]
  cases s.exec t <;> rfl

/-! ## Names of default constraints -/

/-- **Every default constraint is named after its table and its column**, which is there. -/
def WellNamed (t : Table) : Prop :=
  ∀ (k : String) (e : ColumnDefault), t.constraints[k]? = some e →
    e.column ∈ t.columns ∧ k = Sql.constraintName t.name e.column

end Table

end TsqlAlter
