import TsqlAlter.Text.Utf8

/-!
# Logical column types

A column is described by a logical type that no server knows; the SQL type is chosen later. Types
are spelled in any letter case and under some aliases, and any other spelling is kept as an unknown
type.

Results:
* `ofName_name`: every known type is read back from its name.
* `ofName_eq_unknown`: a spelling outside the table stays as it is.
-/

namespace TsqlAlter

/-- A logical column type. -/
inductive ColumnType where
  | smallint
  | integer
  | bigint
  | boolean
  | decimal
  | float
  | string
  | text
  | guid
  | binary
  | blob
  | date
  | time
  | datetime
  | datetimetz
  | json
  /-- A type under a name that is not known. -/
  | unknown (name : String)
deriving DecidableEq, Repr

namespace ColumnType

/-- The canonical name of a type. -/
def name : ColumnType → String
  | smallint => "smallint"
  | integer => "integer"
  | bigint => "bigint"
  | boolean => "boolean"
  | decimal => "decimal"
  | float => "float"
  | string => "string"
  | text => "text"
  | guid => "guid"
  | binary => "binary"
  | blob => "blob"
  | date => "date"
  | time => "time"
  | datetime => "datetime"
  | datetimetz => "datetimetz"
  | json => "json"
  | unknown name => name

/-- Not an unknown type. -/
def isKnown : ColumnType → Bool
  | unknown _ => false
  | _ => true

/-- The spellings of the known types, in lower case. -/
def spellings : List (String × ColumnType) := [
  ("smallint", smallint),
  ("integer", integer), ("int", integer),
  ("bigint", bigint),
  ("boolean", boolean), ("bool", boolean),
  ("decimal", decimal), ("numeric", decimal),
  ("float", float), ("double", float),
  ("string", string),
  ("text", text), ("clob", text),
  ("guid", guid), ("uuid", guid),
  ("binary", binary),
  ("blob", blob),
  ("date", date),
  ("time", time),
  ("datetime", datetime),
  ("datetimetz", datetimetz),
  ("json", json)]

/-- The type with a spelling, in any case of its ASCII letters. -/
def ofName (spelling : String) : ColumnType :=
  (spellings.lookup (Text.lower spelling)).getD (unknown spelling)

/-- Every known type is read back from its name. -/
theorem ofName_name {t : ColumnType} (h : t.isKnown = true) : ofName t.name = t := by
  cases t <;> first | (cases h; done) | decide +kernel

theorem ofName_eq_unknown {spelling : String}
    (h : spellings.lookup (Text.lower spelling) = none) :
    ofName spelling = unknown spelling := by
  simp [ofName, h]

end ColumnType

end TsqlAlter
