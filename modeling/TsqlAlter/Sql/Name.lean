import TsqlAlter.Checksum
import TsqlAlter.Text.Parts

/-!
# Names in SQL text

A bracketed name doubles its closing brackets. A table name may have several parts, which are
bracketed one by one unless they already stand in brackets; a column name is a single part, dots
included. A text literal doubles its quotes.

Default constraints are named by the checksums of their table and column, so that the name can be
told again when the constraint has to go.

Left out: how long a name the server takes. A name of any length is quoted; constraint names are all
equally long.
-/

namespace TsqlAlter.Sql

open Text

/-- A name in brackets. -/
def bracketed (name : List Char) : List Char := '[' :: doubled ']' name ++ [']']

/-- A part that already stands in brackets. -/
def isBracketed (part : List Char) : Bool :=
  part.head? == some '[' && part.getLast? == some ']'

/-- A part of a table name, put into brackets unless it stands in them. -/
def tablePart (part : List Char) : List Char :=
  if isBracketed part then part else bracketed part

/-- A column name in SQL text. -/
def column (name : String) : String := String.ofList (bracketed name.toList)

/-- A table name in SQL text, part by part. -/
def table (name : String) : String :=
  String.ofList (joined '.' ((parts '.' name.toList).map tablePart))

/-- A text literal. -/
def literal (text : String) : String :=
  String.ofList ('\x27' :: doubled '\x27' text.toList ++ ['\x27'])

/-- The name of the default constraint of a column. -/
def constraintName (table column : String) : String :=
  "DF_" ++ Checksum.hash table ++ "_" ++ Checksum.hash column

end TsqlAlter.Sql
