import TsqlAlter.Schema.ColumnType
import TsqlAlter.Schema.DefaultValue

/-!
# Columns

A column in logical terms: its name, its type with the parameters that go with it, and the
attributes of its definition.

Results:
* `constrainedDefault?_eq_none_iff`: which columns need no default constraint.

Left out: putting a column together piece by piece. A column is written down with the fields that it
has, the other ones having their default values.
-/

namespace TsqlAlter

/-- A column of a table. -/
structure Column where
  name : String
  type : ColumnType
  length : Option UInt32 := none
  precision : Option UInt8 := none
  scale : Option UInt8 := none
  /-- Strings and binaries always fill their length. -/
  fixed : Bool := false
  nullable : Bool := true
  autoincrement : Bool := false
  collation : Option String := none
  default : Option DefaultValue := none
  unsigned : Bool := false
deriving DecidableEq, Repr

namespace Column

/-- The default that a constraint has to hold: any but null. -/
def constrainedDefault? (c : Column) : Option DefaultValue :=
  match c.default with
  | some .null => none
  | default => default

/-- A default constraint goes with the column. -/
def hasConstraint (c : Column) : Bool := c.constrainedDefault?.isSome

/-- The column with the type, and the type's parameters, of another. -/
def withTypeOf (c other : Column) : Column :=
  { c with
    type := other.type
    length := other.length
    precision := other.precision
    scale := other.scale
    fixed := other.fixed }

theorem constrainedDefault?_eq_none_iff (c : Column) :
    c.constrainedDefault? = none ↔ c.default = none ∨ c.default = some .null := by
  unfold constrainedDefault?
  split <;> simp_all

end Column

end TsqlAlter
