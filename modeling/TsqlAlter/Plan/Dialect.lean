import TsqlAlter.Diff.TableDiff
import TsqlAlter.Sql.Literal
import TsqlAlter.Sql.Statement
import TsqlAlter.Sql.Type

/-!
# Dialects

A dialect turns the types and defaults of columns into SQL text, and either may fail. Each release
of the server has its dialect. A compiler turns a table diff into statements or fails.

Results:
* `declare_eq_ok_iff`: a column is declared exactly when its type has a text.
-/

namespace TsqlAlter

/-- What differs between servers in the text of a column. -/
structure Dialect where
  name : String
  /-- The SQL type of a column. -/
  typeText : Column → Except Error String
  /-- The literal of the default of a column. -/
  literal : String → DefaultValue → Except Error String

/-- Turns a table diff into statements. -/
abbrev Compiler := TableDiff → Except Error (List Statement)

/-- The dialect of a release. -/
def Release.dialect (r : Release) : Dialect where
  name := r.name
  typeText c := (SqlType.ofColumn r c).map SqlType.text
  literal := Sql.ofDefault

namespace Dialect

/-- The declaration of a column, its default apart. -/
def declare (d : Dialect) (c : Column) : Except Error Declaration :=
  (d.typeText c).map fun type => {
    name := c.name
    type := type
    identity := c.autoincrement
    collation := c.collation
    nullable := c.nullable }

/-- The default constraint of a column of a table. -/
def constraint (d : Dialect) (table : String) (c : Column) (value : DefaultValue) :
    Except Error DefaultConstraint :=
  (d.literal c.name value).map fun literal => ⟨Sql.constraintName table c.name, literal⟩

/-- A column is declared exactly when its type has a text. -/
theorem declare_eq_ok_iff (d : Dialect) (c : Column) (declaration : Declaration) :
    d.declare c = .ok declaration ↔
      ∃ type, d.typeText c = .ok type ∧
        declaration = ⟨c.name, type, c.autoincrement, c.collation, c.nullable⟩ := by
  unfold declare
  cases d.typeText c with
  | error e => simp [Except.map]
  | ok type => simp [Except.map, eq_comm]

end Dialect

end TsqlAlter
