import TsqlAlter.Diff.TableDiff
import TsqlAlter.Schema.Json

/-!
# Table diffs in JSON

A diff is a record of which only the table's name must be given; a change and a rename must be
given completely. Attributes are written in declared order, and read in any order and any number.

Results:
* `Attribute.decode_string`: an attribute is read from its name.
-/

namespace TsqlAlter

open Json

/-- Reads an attribute from its name. -/
def Attribute.decode : Decoder Attribute :=
  .enumeration (Attribute.all.map fun a => (a.text, a))

theorem Attribute.decode_string (a : Attribute) :
    Attribute.decode (.string a.text) = .ok a := by
  cases a <;> rfl

/-- Reads a set of attributes. -/
def AttributeSet.decode : Decoder AttributeSet := .map AttributeSet.ofList (.list Attribute.decode)

/-- The JSON form of a set of attributes. -/
def AttributeSet.toJson (s : AttributeSet) : Value :=
  .array (s.toList.map fun a => .string a.text)

namespace Change

/-- Reads one field of a change. -/
def put (key : String) (t : Tree) (c : Change) : Except ReadError Change :=
  match key with
  | "old_name" => return { c with oldName := ← Decoder.string t }
  | "changed_properties" => return { c with attributes := ← AttributeSet.decode t }
  | "from" => return { c with before := ← Column.decode t }
  | "column" => return { c with after := ← Column.decode t }
  | _ => return c

/-- How a change is read. -/
def format : Format Change where
  title := "struct ColumnChange"
  keys := ["old_name", "changed_properties", "from", "column"]
  required := ["old_name", "changed_properties", "from", "column"]
  strict := false
  blank := ⟨"", .empty, Column.format.blank, Column.format.blank⟩
  put := put

/-- Reads a change. -/
def decode : Decoder Change := format.decode

/-- The JSON form of a change. -/
def toJson (c : Change) : Value :=
  .object [
    ("old_name", .string c.oldName),
    ("changed_properties", c.attributes.toJson),
    ("from", c.before.toJson),
    ("column", c.after.toJson)]

end Change

namespace Rename

/-- Reads one field of a rename. -/
def put (key : String) (t : Tree) (r : Rename) : Except ReadError Rename :=
  match key with
  | "old_name" => return { r with oldName := ← Decoder.string t }
  | "column" => return { r with column := ← Column.decode t }
  | _ => return r

/-- How a rename is read. -/
def format : Format Rename where
  title := "struct RenamedColumn"
  keys := ["old_name", "column"]
  required := ["old_name", "column"]
  strict := false
  blank := ⟨"", Column.format.blank⟩
  put := put

/-- Reads a rename. -/
def decode : Decoder Rename := format.decode

/-- The JSON form of a rename. -/
def toJson (r : Rename) : Value :=
  .object [("old_name", .string r.oldName), ("column", r.column.toJson)]

end Rename

namespace TableDiff

/-- Reads one field of a diff. -/
def put (key : String) (t : Tree) (d : TableDiff) : Except ReadError TableDiff :=
  match key with
  | "name" => return { d with name := ← Decoder.string t }
  | "new_name" => return { d with newName := ← Decoder.string.option t }
  | "added" => return { d with added := ← Decoder.list Column.decode t }
  | "removed" => return { d with removed := ← Decoder.list Column.decode t }
  | "changed" => return { d with changed := ← Decoder.list Change.decode t }
  | "renamed" => return { d with renamed := ← Decoder.list Rename.decode t }
  | _ => return d

/-- How a diff is read. -/
def format : Format TableDiff where
  title := "struct TableDiff"
  keys := ["name", "new_name", "added", "removed", "changed", "renamed"]
  required := ["name"]
  strict := false
  blank := { name := "" }
  put := put

/-- Reads a diff. -/
def decode : Decoder TableDiff := format.decode

/-- The JSON form of a diff. -/
def toJson (d : TableDiff) : Value :=
  .object [
    ("name", .string d.name),
    ("new_name", .option .string d.newName),
    ("added", .array (d.added.map Column.toJson)),
    ("removed", .array (d.removed.map Column.toJson)),
    ("changed", .array (d.changed.map Change.toJson)),
    ("renamed", .array (d.renamed.map Rename.toJson))]

/-- The diff that a text describes. -/
def ofText (text : String) : Except ReadError TableDiff := read decode text

end TableDiff

end TsqlAlter
