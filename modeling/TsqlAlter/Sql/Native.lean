import TsqlAlter.Schema.ColumnType

/-!
# Native type names

The logical type of each type name that the server itself uses, in any case of its ASCII letters.

Results:
* `mem_of_lookup_eq_some`: what is found in a table stands in it.
-/

namespace TsqlAlter.ColumnType

/-- The native names, in lower case. -/
def nativeNames : List (String × ColumnType) := [
  ("bigint", bigint),
  ("int", integer),
  ("smallint", smallint), ("tinyint", smallint),
  ("bit", boolean),
  ("decimal", decimal), ("numeric", decimal), ("money", decimal), ("smallmoney", decimal),
  ("float", float), ("real", float), ("double", float),
  ("char", string), ("nchar", string), ("varchar", string), ("nvarchar", string),
  ("sysname", string),
  ("text", text), ("ntext", text), ("xml", text),
  ("uniqueidentifier", guid),
  ("binary", binary), ("varbinary", binary), ("timestamp", binary), ("rowversion", binary),
  ("image", blob), ("hierarchyid", blob),
  ("date", date),
  ("time", time),
  ("datetime", datetime), ("datetime2", datetime), ("smalldatetime", datetime),
  ("datetimeoffset", datetimetz)]

/-- The logical type of a native type name. -/
def ofNative? (name : String) : Option ColumnType := nativeNames.lookup (Text.lower name)

theorem mem_of_lookup_eq_some {table : List (String × ColumnType)} {name : String}
    {t : ColumnType} (h : table.lookup name = some t) : ∃ key, (key, t) ∈ table := by
  induction table with
  | nil => cases h
  | cons entry more ih =>
    rw [List.lookup_cons] at h
    split at h
    · cases h; exact ⟨entry.1, List.mem_cons_self ..⟩
    · obtain ⟨key, hk⟩ := ih h
      exact ⟨key, List.mem_cons_of_mem _ hk⟩

end TsqlAlter.ColumnType
