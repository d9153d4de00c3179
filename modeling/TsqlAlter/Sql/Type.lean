import TsqlAlter.Error
import TsqlAlter.Release
import TsqlAlter.Schema.Column

/-!
# SQL types

The SQL type of a column depends on the release of the server. Strings take two bytes a character
and are declared in bytes, so their length is doubled; a length beyond the type's limit becomes
`MAX`, or a large object where the release does not know `MAX`.

Results:
* `isOk_ofColumn`, `ofColumn_unknown`: exactly the unknown types have no SQL type.
* `ofColumn_withTypeOf`: the SQL type depends on nothing but the type and its parameters.
-/

namespace TsqlAlter

/-- The size of a sized type. -/
inductive Size where
  | count (n : Nat)
  | max
deriving DecidableEq, Repr

/-- An SQL type. -/
inductive SqlType where
  | smallint
  | int
  | bigint
  | bit
  | float
  | numeric (precision scale : Nat)
  | nchar (size : Size)
  | nvarchar (size : Size)
  | binary (size : Size)
  | varbinary (size : Size)
  | ntext
  | image
  | uniqueidentifier
  | date
  | time
  | datetime
  | datetime2
  | datetimeoffset
deriving DecidableEq, Repr

/-- The text of a size. -/
def Size.text : Size → String
  | count n => toString n
  | max => "MAX"

namespace SqlType

/-- The keyword of a type. -/
def keyword : SqlType → String
  | smallint => "SMALLINT"
  | int => "INT"
  | bigint => "BIGINT"
  | bit => "BIT"
  | float => "FLOAT"
  | numeric _ _ => "NUMERIC"
  | nchar _ => "NCHAR"
  | nvarchar _ => "NVARCHAR"
  | binary _ => "BINARY"
  | varbinary _ => "VARBINARY"
  | ntext => "NTEXT"
  | image => "IMAGE"
  | uniqueidentifier => "UNIQUEIDENTIFIER"
  | date => "DATE"
  | time => "TIME"
  | datetime => "DATETIME"
  | datetime2 => "DATETIME2"
  | datetimeoffset => "DATETIMEOFFSET"

/-- The parameters of a type, in parentheses. -/
def parameters : SqlType → String
  | numeric precision scale => "(" ++ toString precision ++ ", " ++ toString scale ++ ")"
  | nchar size => "(" ++ size.text ++ ")"
  | nvarchar size => "(" ++ size.text ++ ")"
  | binary size => "(" ++ size.text ++ ")"
  | varbinary size => "(" ++ size.text ++ ")"
  | time => "(0)"
  | datetime2 => "(6)"
  | datetimeoffset => "(6)"
  | _ => ""

/-- The text of a type. -/
def text (t : SqlType) : String := t.keyword ++ t.parameters

/-- The length of a string or binary declared without one. -/
def defaultLength : Nat := 255

/-- The greatest declared length of a string. -/
def stringLimit : Nat := 4000

/-- The greatest declared length of a binary. -/
def binaryLimit : Nat := 8000

/-- The type of texts of any length. -/
def largeText (r : Release) : SqlType := if r.knowsMax then nvarchar .max else ntext

/-- The type of bytes of any length. -/
def largeBinary (r : Release) : SqlType := if r.knowsMax then varbinary .max else image

/-- The type of a string of a given length, which is the default one if absent. -/
def ofString (r : Release) (length : Option UInt32) (fixed : Bool) : SqlType :=
  let length := (length.map UInt32.toNat).getD defaultLength
  let sized (size : Size) := if fixed then nchar size else nvarchar size
  if stringLimit < length then largeText r
  else if length = 0 then sized (.count defaultLength)
  else if 2 * length ≤ stringLimit then sized (.count (2 * length))
  else if r.knowsMax then sized .max
  else largeText r

/-- The type of a binary of a given length, which is the default one if absent or zero. -/
def ofBinary (r : Release) (length : Option UInt32) (fixed : Bool) : SqlType :=
  let length := (length.map UInt32.toNat).getD defaultLength
  let sized (size : Size) := if fixed then binary size else varbinary size
  if length = 0 then sized (.count defaultLength)
  else if length ≤ binaryLimit then sized (.count length)
  else if r.knowsMax then sized .max
  else largeBinary r

/-- The type for dates and times, which older releases do not tell apart. -/
def temporal (r : Release) (t : SqlType) : SqlType := if r.knowsTemporal then t else datetime

/-- The SQL type of a column. -/
def ofColumn (r : Release) (c : Column) : Except Error SqlType :=
  match c.type with
  | .smallint => .ok smallint
  | .integer => .ok int
  | .bigint => .ok bigint
  | .boolean => .ok bit
  | .float => .ok float
  | .decimal =>
    .ok (numeric ((c.precision.map UInt8.toNat).getD 10) ((c.scale.map UInt8.toNat).getD 0))
  | .string => .ok (ofString r c.length c.fixed)
  | .text => .ok (largeText r)
  | .json => .ok (largeText r)
  | .guid => .ok uniqueidentifier
  | .binary => .ok (ofBinary r c.length c.fixed)
  | .blob => .ok (largeBinary r)
  | .date => .ok (temporal r date)
  | .time => .ok (temporal r time)
  | .datetime => .ok (temporal r datetime2)
  | .datetimetz => .ok (temporal r datetimeoffset)
  | .unknown type => .error (.unrenderableType c.name type)

/-- Exactly the unknown types have no SQL type. -/
theorem isOk_ofColumn (r : Release) (c : Column) :
    (ofColumn r c).isOk = c.type.isKnown := by
  unfold ofColumn
  split <;> simp_all [Except.isOk, Except.toBool, ColumnType.isKnown]

theorem ofColumn_unknown {r : Release} {c : Column} {type : String}
    (h : c.type = .unknown type) : ofColumn r c = .error (.unrenderableType c.name type) := by
  simp [ofColumn, h]

/-- Nothing but the type and its parameters decides the SQL type. -/
theorem ofColumn_withTypeOf (r : Release) (c : Column) {other : Column}
    (h : other.type.isKnown = true) :
    ofColumn r (c.withTypeOf other) = ofColumn r other := by
  simp only [ofColumn, Column.withTypeOf]
  split <;> simp_all [ColumnType.isKnown]

end SqlType

end TsqlAlter
