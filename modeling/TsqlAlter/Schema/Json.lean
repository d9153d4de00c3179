import TsqlAlter.Json.Decode
import TsqlAlter.Json.Value
import TsqlAlter.Schema.Column

/-!
# Columns in JSON

A column is a record whose name and type must be given. A default is a bare `null` or an object
with one key that says what kind of value it holds; as a field, JSON null means no default. A type
is read from any of its spellings and written under its own name.
-/

namespace TsqlAlter

open Json

/-- Reads a logical type from its spelling. -/
def ColumnType.decode : Decoder ColumnType := .map ColumnType.ofName .string

/-- A logical type under its canonical name. -/
def ColumnType.toJson (t : ColumnType) : Value := .string t.name

namespace DefaultValue

/-- A variant that carries a value, which its bare name lacks. -/
def carrying {α : Type} (f : α → DefaultValue) (d : Decoder α) :
    Except ReadError DefaultValue × Decoder DefaultValue :=
  (.error (.mismatch (.invalidType .bareVariant "newtype variant")), .map f d)

/-- Reads a default. -/
def decode : Decoder DefaultValue :=
  .choice [
    ("null", .ok .null, .map (fun _ => .null) .unit),
    ("boolean", carrying .boolean .bool),
    ("integer", carrying .integer .int64),
    ("float", carrying .float .float),
    ("string", carrying .string .string),
    ("expression", carrying .expression .string)]

/-- The JSON form of a default. -/
def toJson : DefaultValue → Value
  | null => .string "null"
  | boolean b => .object [("boolean", .bool b)]
  | integer i => .object [("integer", .integer i.toInt)]
  | float x => .object [("float", .float x)]
  | string s => .object [("string", .string s)]
  | expression sql => .object [("expression", .string sql)]

end DefaultValue

namespace Column

/-- Reads one field of a column. -/
def put (key : String) (t : Tree) (c : Column) : Except ReadError Column :=
  match key with
  | "name" => return { c with name := ← Decoder.string t }
  | "type" => return { c with type := ← ColumnType.decode t }
  | "length" => return { c with length := ← Decoder.uint32.option t }
  | "precision" => return { c with precision := ← Decoder.uint8.option t }
  | "scale" => return { c with scale := ← Decoder.uint8.option t }
  | "fixed" => return { c with fixed := ← Decoder.bool t }
  | "nullable" => return { c with nullable := ← Decoder.bool t }
  | "autoincrement" => return { c with autoincrement := ← Decoder.bool t }
  | "collation" => return { c with collation := ← Decoder.string.option t }
  | "default" => return { c with default := ← Decoder.option DefaultValue.decode t }
  | "unsigned" => return { c with unsigned := ← Decoder.bool t }
  | _ => return c

/-- How a column is read. -/
def format : Format Column where
  title := "struct ColumnSpec"
  keys := ["name", "type", "length", "precision", "scale", "fixed", "nullable", "autoincrement",
    "collation", "default", "unsigned"]
  required := ["name", "type"]
  strict := false
  blank := { name := "", type := .string }
  put := put

/-- Reads a column. -/
def decode : Decoder Column := format.decode

/-- The members of a column's JSON form. -/
def members (c : Column) : List (String × Value) := [
  ("name", .string c.name),
  ("type", c.type.toJson),
  ("length", .option (fun n => .nat n.toNat) c.length),
  ("precision", .option (fun n => .nat n.toNat) c.precision),
  ("scale", .option (fun n => .nat n.toNat) c.scale),
  ("fixed", .bool c.fixed),
  ("nullable", .bool c.nullable),
  ("autoincrement", .bool c.autoincrement),
  ("collation", .option .string c.collation),
  ("default", .option DefaultValue.toJson c.default),
  ("unsigned", .bool c.unsigned)]

/-- The JSON form of a column. -/
def toJson (c : Column) : Value := .object c.members

end Column

end TsqlAlter
