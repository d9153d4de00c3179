import TsqlAlter.Plan.Platform
import TsqlAlter.Proofs.Sql.TableName

/-!
# What a rename addresses

The statement that renames a column hands the server the column as a text: the name of the table, a
dot, and the name of the column. The server takes the quotes off and reads the text as a name of
several parts. Nothing in the text says where the table's name ends, so it is up to the names
whether the column is found.

`renameTarget?` is what the server reads, and `columnPath` what it should. `IsAddressable` says of
the two names that there is nothing in them to mislead it.

Results:
* `renameTarget?_renameColumn`: the server reads the two names with a dot between them.
* `renameTarget?_eq_parts`: it cuts them at every dot, if no bracket opens a part.
* `addresses_iff_isAddressable`: which columns are found, and that no two of them are confused.

Left out: the new name, which is taken as it is.
-/

namespace TsqlAlter.Sql

open Text

variable {table table' oldName oldName' : String}

/-! ## The column that is meant -/

/-- The parts of a column's name: those of its table, and the column as one more. -/
def columnPath (table column : String) : List (List Char) :=
  parts '.' table.toList ++ [column.toList]

theorem columnPath_ne_nil (table column : String) : columnPath table column ≠ [] := by
  simp [columnPath]

theorem joined_columnPath (table column : String) :
    joined '.' (columnPath table column) = (table ++ "." ++ column).toList := by
  rw [columnPath, joined_append (parts_ne_nil '.' table.toList) (by simp), joined_parts,
    String.toList_append, String.toList_append, List.append_assoc]
  rfl

/-- Different columns have different paths. -/
theorem columnPath_inj {column column' : String} :
    columnPath table column = columnPath table' column' ↔ table = table' ∧ column = column' := by
  constructor
  · intro same
    obtain ⟨tables, columns⟩ := List.append_inj' same rfl
    have joins := congrArg (joined '.') tables
    rw [joined_parts, joined_parts, String.toList_inj] at joins
    exact ⟨joins, String.toList_inj.1 (List.singleton_inj.1 columns)⟩
  · rintro ⟨rfl, rfl⟩
    rfl

/-! ## The column that is read -/

/-- Reads the first argument of a rename, and says what follows it. -/
def renameArgument? (sql : String) : Option (List Char × List Char) :=
  (sql.toList.dropPrefix? "EXEC sp_rename '".toList).bind (delimited? '\x27')

/-- The parts of the name that a rename addresses. -/
def renameTarget? (sql : String) : Option (List (List Char)) :=
  (renameArgument? sql).bind fun (argument, _) => names? argument

/-- Taking the quotes off gives the argument back, and the new name and the kind follow. -/
theorem renameArgument?_renameColumn (table oldName newName : String) :
    renameArgument? (Statement.renameColumn table oldName newName).text =
      some ((table ++ "." ++ oldName).toList,
        (", " ++ literal newName ++ ", 'COLUMN'").toList) := by
  have written : (Statement.renameColumn table oldName newName).text.toList =
      "EXEC sp_rename '".toList ++ (doubled '\x27' (table ++ "." ++ oldName).toList ++
        '\x27' :: (", " ++ literal newName ++ ", 'COLUMN'").toList) := by
    change ("EXEC sp_rename " ++ literal (table ++ "." ++ oldName) ++ ", " ++ literal newName ++
      ", 'COLUMN'").toList = _
    simp [literal]
  have stop : (", " ++ literal newName ++ ", 'COLUMN'").toList.head? ≠ some '\x27' := by
    simp
  rw [renameArgument?, written, List.dropPrefix?_append_of_beq _ (beq_self_eq_true _),
    Option.bind_some, delimited?_doubled _ stop]

theorem renameTarget?_renameColumn (table oldName newName : String) :
    renameTarget? (Statement.renameColumn table oldName newName).text =
      names? (joined '.' (columnPath table oldName)) := by
  rw [renameTarget?, renameArgument?_renameColumn, joined_columnPath]
  rfl

/-- **Every dot cuts**, if no bracket opens a part. -/
theorem renameTarget?_eq_parts (newName : String)
    (tableOpen : ∀ part ∈ parts '.' table.toList, part.head? ≠ some '[')
    (columnOpen : ∀ part ∈ parts '.' oldName.toList, part.head? ≠ some '[') :
    renameTarget? (Statement.renameColumn table oldName newName).text =
      some (parts '.' table.toList ++ parts '.' oldName.toList) := by
  have cut : joined '.' (columnPath table oldName) =
      joined '.' (parts '.' table.toList ++ parts '.' oldName.toList) := by
    rw [columnPath, joined_append (parts_ne_nil '.' _) (by simp),
      joined_append (parts_ne_nil '.' _) (parts_ne_nil '.' _), joined_parts '.' oldName.toList]
    rfl
  rw [renameTarget?_renameColumn, cut, names?_joined_iff (by simp [parts_ne_nil])]
  intro part hp
  rcases List.mem_append.1 hp with hp | hp
  · exact ⟨tableOpen part hp, not_mem_of_mem_parts hp⟩
  · exact ⟨columnOpen part hp, not_mem_of_mem_parts hp⟩

/-! ## The columns that are found -/

/-- No part of the table's name and not the column's starts with a bracket, and the column's has
no dot. -/
def IsAddressable (table column : String) : Prop :=
  (∀ part ∈ parts '.' table.toList, part.head? ≠ some '[') ∧ IsPlain column.toList

instance (table column : String) : Decidable (IsAddressable table column) :=
  inferInstanceAs (Decidable ((∀ part ∈ parts '.' table.toList, part.head? ≠ some '[') ∧
    IsPlain column.toList))

theorem isAddressable_iff {column : String} :
    IsAddressable table column ↔ ∀ part ∈ columnPath table column, IsPlain part := by
  have bare : ∀ part ∈ parts '.' table.toList, (IsPlain part ↔ part.head? ≠ some '[') :=
    fun part hp => and_iff_left (not_mem_of_mem_parts hp)
  rw [columnPath, List.forall_mem_append, List.forall_mem_singleton, IsAddressable]
  refine and_congr_left fun _ => forall₂_congr fun part hp => (bare part hp).symm

theorem renameTarget?_eq_columnPath_iff (table oldName newName : String) :
    renameTarget? (Statement.renameColumn table oldName newName).text =
      some (columnPath table oldName) ↔ IsAddressable table oldName := by
  rw [renameTarget?_renameColumn, names?_joined_iff (columnPath_ne_nil table oldName),
    isAddressable_iff]

/-- **Which columns a rename finds.** The server reads the text as the parts of the table followed
by the column as one part exactly if no bracket opens one of them and the column has no dot. Two of
these columns, of one table or of two, are never confused. -/
theorem addresses_iff_isAddressable (table oldName newName : String) :
    (renameTarget? (Statement.renameColumn table oldName newName).text =
      some (columnPath table oldName) ↔ IsAddressable table oldName) ∧
    ∀ table' oldName' newName', IsAddressable table oldName → IsAddressable table' oldName' →
      renameTarget? (Statement.renameColumn table oldName newName).text =
        renameTarget? (Statement.renameColumn table' oldName' newName').text →
      table = table' ∧ oldName = oldName' := by
  refine ⟨renameTarget?_eq_columnPath_iff .., fun table' oldName' newName' h h' same => ?_⟩
  rw [(renameTarget?_eq_columnPath_iff ..).2 h, (renameTarget?_eq_columnPath_iff ..).2 h',
    Option.some_inj] at same
  exact columnPath_inj.1 same

theorem addresses_iff_isAddressable_users :
    IsAddressable "dbo.users" "nick" ∧ IsAddressable "dbo.users" "name" ∧
    renameTarget? (Statement.renameColumn "dbo.users" "nick" "nickname").text =
      some ["dbo".toList, "users".toList, "nick".toList] ∧
    renameTarget? (Statement.renameColumn "dbo.users" "nick" "nickname").text ≠
      renameTarget? (Statement.renameColumn "dbo.users" "name" "nickname").text := by
  have nick : IsAddressable "dbo.users" "nick" := by decide
  have name : IsAddressable "dbo.users" "name" := by decide
  obtain ⟨found, apart⟩ := addresses_iff_isAddressable "dbo.users" "nick" "nickname"
  refine ⟨nick, name, found.2 nick, fun same => ?_⟩
  exact absurd (apart _ _ _ nick name same).2 (by decide)

/-- A column with a dot in its name gets another name. -/
def renamePrice : TableDiff where
  name := "T"
  renamed := [⟨"price.usd", { name := "price", type := .integer }⟩]

/-- **A column that is not found**: the server looks for `usd` in the table `T.price`, where another
rename would look for it too. With the column's name in brackets it would be found. -/
theorem not_found_renamePrice :
    (Platform.ofRelease .sql2008).compile renamePrice =
      .ok [.renameColumn "T" "price.usd" "price"] ∧
    Unbracketed "T" ∧ Unbracketed "T.price" ∧
    renameTarget? (Statement.renameColumn "T" "price.usd" "price").text ≠
      some (columnPath "T" "price.usd") ∧
    renameTarget? (Statement.renameColumn "T" "price.usd" "price").text =
      renameTarget? (Statement.renameColumn "T.price" "usd" "price").text ∧
    names? ("T" ++ "." ++ column "price.usd").toList = some (columnPath "T" "price.usd") := by
  have wrong : renameTarget? (Statement.renameColumn "T" "price.usd" "price").text =
      some ["T".toList, "price".toList, "usd".toList] :=
    renameTarget?_eq_parts "price" (by decide) (by decide)
  have other : renameTarget? (Statement.renameColumn "T.price" "usd" "price").text =
      some ["T".toList, "price".toList, "usd".toList] :=
    renameTarget?_eq_parts "price" (by decide) (by decide)
  refine ⟨by decide +kernel, by decide, by decide, ?_, wrong.trans other.symm, ?_⟩
  · rw [wrong]
    decide
  · refine names?_eq_some_iff.2 ⟨["T".toList, bracketed "price.usd".toList], by simp, ?_, by decide⟩
    exact .cons (spells_self_of_isPlain (by decide)) (.cons (.bracketed _) .nil)

end TsqlAlter.Sql
