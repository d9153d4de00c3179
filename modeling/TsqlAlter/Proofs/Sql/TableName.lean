import Mathlib.Data.Set.Function
import Mathlib.Data.Set.List
import TsqlAlter.Proofs.Sql.MultipartName
import TsqlAlter.Sql.Statement

/-!
# Table names in statements

A table name is put into brackets part by part. A part that stands in brackets already is kept, and
whether it does is told by its two ends alone.

`Statement.alteredTable?` is the table that a statement alters, and `Unbracketed` says of a name
that no part of it stands in brackets.

Results:
* `parts_table`: the parts of a table name are found again in its quoted form.
* `reads_table_iff`: each part is read as one identifier exactly if what stands in brackets is
  well-formed.
* `quotes_losslessly`: quoting twice is quoting once, and what is not in brackets is read again.

Left out: names that are handed over as texts, which are quoted otherwise
(`Proofs/Sql/RenameTarget`).
-/

namespace TsqlAlter

namespace Sql

open Text

/-! ## Parts -/

@[simp] theorem isBracketed_bracketed (part : List Char) : isBracketed (bracketed part) = true := by
  rw [isBracketed, bracketed, List.getLast?_append]
  rfl

@[simp] theorem isBracketed_tablePart (part : List Char) : isBracketed (tablePart part) = true := by
  unfold tablePart
  split
  · assumption
  · exact isBracketed_bracketed part

@[simp] theorem tablePart_tablePart (part : List Char) :
    tablePart (tablePart part) = tablePart part :=
  if_pos (isBracketed_tablePart part)

/-- A part is quoted well unless it stands in brackets and is not well-formed. -/
theorem tablePart_mem_range_iff {part : List Char} :
    tablePart part ∈ Set.range bracketed ↔
      (isBracketed part = true → part ∈ Set.range bracketed) := by
  unfold tablePart
  by_cases h : isBracketed part = true
  · rw [if_pos h, forall_prop_of_true h]
  · simp [h]

theorem mem_bracketed {c : Char} (left : c ≠ '[') (right : c ≠ ']') {part : List Char} :
    c ∈ bracketed part ↔ c ∈ part := by
  simp [bracketed, left, right]

/-- Quoting a part adds and removes no other characters than brackets. -/
theorem mem_tablePart {c : Char} (left : c ≠ '[') (right : c ≠ ']') {part : List Char} :
    c ∈ tablePart part ↔ c ∈ part := by
  unfold tablePart
  split
  · rfl
  · exact mem_bracketed left right

theorem notMem_bracketed {part : List Char} (h : '.' ∉ part) : '.' ∉ bracketed part :=
  mt (mem_bracketed (by decide) (by decide)).1 h

theorem notMem_tablePart {part : List Char} (h : '.' ∉ part) : '.' ∉ tablePart part :=
  mt (mem_tablePart (by decide) (by decide)).1 h

theorem toList_table (name : String) :
    (table name).toList = joined '.' ((parts '.' name.toList).map tablePart) :=
  String.toList_ofList

theorem map_tablePart_ne_nil (name : String) : (parts '.' name.toList).map tablePart ≠ [] := by
  simpa using parts_ne_nil '.' name.toList

/-- Quoting adds no dot, so that the parts of the name are found again. -/
theorem parts_table (name : String) :
    parts '.' (table name).toList = (parts '.' name.toList).map tablePart := by
  rw [toList_table]
  refine parts_joined (map_tablePart_ne_nil name) ?_
  rw [List.forall_mem_map]
  exact fun part h => notMem_tablePart (not_mem_of_mem_parts h)

theorem table_table (name : String) : table (table name) = table name := by
  rw [← String.toList_inj, toList_table, parts_table, List.map_map, toList_table]
  congr 2
  funext part
  exact tablePart_tablePart part

/-! ## Statements -/

end Sql

/-- The table that a statement alters. -/
def Statement.alteredTable? : Statement → Option String
  | addColumn table _ _ => some table
  | dropColumn table _ => some table
  | alterColumn table _ => some table
  | addDefault table _ _ => some table
  | dropDefault table _ => some table
  | dropDefaultIfExists table _ => some table
  | renameColumn _ _ _ => none
  | renameTable _ _ => none
  | verbatim _ => none

/-- The table that a statement alters stands in front of a blank. -/
theorem Statement.text_of_alteredTable? {s : Statement} {table : String}
    (h : s.alteredTable? = some table) :
    ∃ before rest, s.text = before ++ "ALTER TABLE " ++ (Sql.table table ++ " " ++ rest) := by
  -- the blank is the first character of the words after the table
  have add : " ADD " = " " ++ "ADD " := rfl
  have dropColumn : " DROP COLUMN " = " " ++ "DROP COLUMN " := rfl
  have alterColumn : " ALTER COLUMN " = " " ++ "ALTER COLUMN " := rfl
  have dropConstraint : " DROP CONSTRAINT " = " " ++ "DROP CONSTRAINT " := rfl
  have guarded : "') BEGIN ALTER TABLE " = "') BEGIN " ++ "ALTER TABLE " := rfl
  cases s <;> cases h
  case addColumn column default =>
    cases default with
    | none =>
      refine ⟨"", "ADD " ++ column.text, ?_⟩
      change "ALTER TABLE " ++ Sql.table table ++ " ADD " ++ column.text ++ "" = _
      simp only [add, String.append_assoc, String.empty_append, String.append_empty]
    | some default =>
      refine ⟨"", "ADD " ++ column.text ++ " " ++ default.text, ?_⟩
      change "ALTER TABLE " ++ Sql.table table ++ " ADD " ++ column.text ++
        (" " ++ default.text) = _
      simp only [add, String.append_assoc, String.empty_append]
  case dropColumn column =>
    refine ⟨"", "DROP COLUMN " ++ Sql.column column, ?_⟩
    change "ALTER TABLE " ++ Sql.table table ++ " DROP COLUMN " ++ Sql.column column = _
    simp only [dropColumn, String.append_assoc, String.empty_append]
  case alterColumn column =>
    refine ⟨"", "ALTER COLUMN " ++ column.text, ?_⟩
    change "ALTER TABLE " ++ Sql.table table ++ " ALTER COLUMN " ++ column.text = _
    simp only [alterColumn, String.append_assoc, String.empty_append]
  case addDefault default column =>
    refine ⟨"", "ADD " ++ default.text ++ " FOR " ++ Sql.column column, ?_⟩
    change "ALTER TABLE " ++ Sql.table table ++ " ADD " ++ default.text ++ " FOR " ++
      Sql.column column = _
    simp only [add, String.append_assoc, String.empty_append]
  case dropDefault name =>
    refine ⟨"", "DROP CONSTRAINT " ++ name, ?_⟩
    change "ALTER TABLE " ++ Sql.table table ++ " DROP CONSTRAINT " ++ name = _
    simp only [dropConstraint, String.append_assoc, String.empty_append]
  case dropDefaultIfExists name =>
    refine ⟨
      "IF EXISTS(SELECT 1 FROM sys.objects WHERE type_desc = 'DEFAULT_CONSTRAINT' AND name = '" ++
        name ++ "') BEGIN ",
      "DROP CONSTRAINT " ++ name ++ "; END", ?_⟩
    change
      "IF EXISTS(SELECT 1 FROM sys.objects WHERE type_desc = 'DEFAULT_CONSTRAINT' AND name = '" ++
        name ++ "') BEGIN ALTER TABLE " ++ Sql.table table ++ " DROP CONSTRAINT " ++ name ++
        "; END" = _
    simp only [guarded, dropConstraint, String.append_assoc]

namespace Sql

open Text

variable {name : String} {names : List (List Char)}

/-- A blank ends a name in a statement. -/
theorem stops_blank (rest : List Char) : Stops endsBare (' ' :: rest) := by
  intro c hc
  cases hc
  decide

theorem multipart?_of_quoted (ne : names ≠ [])
    (quoted : (table name).toList = joined '.' (names.map bracketed)) (rest : String) :
    multipart? endsBare (table name ++ " " ++ rest).toList =
      some (names, (" " ++ rest).toList) := by
  have spells : List.Forall₂ (Spells endsBare) names (names.map bracketed) := by
    rw [List.forall₂_map_right_iff, List.forall₂_same]
    exact fun part _ => .bracketed part
  have read := multipart?_of_spells spells ne (stops_blank rest.toList) (by simp)
  simpa [String.toList_append, quoted] using read

/-- **When a table name is quoted well.** Each part of the name is one identifier in brackets, with
the closing brackets inside doubled, exactly if each part that stands in brackets is such an
identifier already. A statement is then read, after the words ALTER TABLE, as altering the table of
these identifiers, and the reader goes on at the blank behind the name. -/
theorem reads_table_iff (name : String) :
    (∃ names, names ≠ [] ∧ (∀ part ∈ names, '.' ∉ part) ∧
      (table name).toList = joined '.' (names.map bracketed) ∧
      (∀ rest, multipart? endsBare (table name ++ " " ++ rest).toList =
        some (names, (" " ++ rest).toList)) ∧
      ∀ s : Statement, s.alteredTable? = some name → ∃ before rest,
        s.text = before ++ "ALTER TABLE " ++ (table name ++ " " ++ rest)) ↔
    ∀ part ∈ parts '.' name.toList, isBracketed part = true → part ∈ Set.range bracketed := by
  constructor
  · rintro ⟨names, ne, free, quoted, -⟩ part hp
    have same : (parts '.' name.toList).map tablePart = names.map bracketed := by
      rw [← parts_table, quoted]
      refine parts_joined (by simpa using ne) ?_
      rw [List.forall_mem_map]
      exact fun part h => notMem_bracketed (free part h)
    have made : tablePart part ∈ names.map bracketed := same ▸ List.mem_map_of_mem hp
    obtain ⟨inner, -, e⟩ := List.mem_map.1 made
    exact tablePart_mem_range_iff.1 ⟨inner, e⟩
  · intro well
    have made : (parts '.' name.toList).map tablePart ∈ Set.range (List.map bracketed) := by
      rw [Set.range_list_map, Set.mem_ofPred_eq, List.forall_mem_map]
      exact fun part hp => tablePart_mem_range_iff.2 (well part hp)
    obtain ⟨names, same⟩ := made
    have ne : names ≠ [] := by
      rintro rfl
      exact map_tablePart_ne_nil name same.symm
    have quoted : (table name).toList = joined '.' (names.map bracketed) := by
      rw [toList_table, same]
    refine ⟨names, ne, fun part hp => ?_, quoted, multipart?_of_quoted ne quoted,
      fun s => Statement.text_of_alteredTable?⟩
    -- the parts of the name hold no dot, and brackets hide none
    have made : bracketed part ∈ (parts '.' name.toList).map tablePart :=
      same ▸ List.mem_map_of_mem hp
    obtain ⟨original, ho, e⟩ := List.mem_map.1 made
    have free := notMem_tablePart (not_mem_of_mem_parts ho)
    rw [e] at free
    simpa [bracketed] using free

/-- A table name with a part that only seems to stand in brackets. -/
def injectedName : String := "[T] DROP COLUMN [B]; --]"

/-- **A table name that ends its quoting early**: its quoted form is no row of identifiers, and the
statement that drops a column from it goes on behind the identifier `T`. -/
theorem not_quoted_injectedName :
    (¬∃ names : List (List Char),
      (table injectedName).toList = joined '.' (names.map bracketed)) ∧
    (Statement.dropColumn injectedName "A").text =
      "ALTER TABLE " ++ "[T] DROP COLUMN [B]; --] DROP COLUMN [A]" ∧
    multipart? endsBare "[T] DROP COLUMN [B]; --] DROP COLUMN [A]".toList =
      some (["T".toList], " DROP COLUMN [B]; --] DROP COLUMN [A]".toList) := by
  have kept : table injectedName = injectedName := by decide
  have spells : List.Forall₂ (Spells endsBare) ["T".toList] ["[T]".toList] :=
    .cons (.bracketed _) .nil
  have early := multipart?_of_spells spells (by simp)
    (stops_blank "DROP COLUMN [B]; --] DROP COLUMN [A]".toList) (by simp)
  refine ⟨?_, rfl, early⟩
  rintro ⟨names, quoted⟩
  have ne : names ≠ [] := by
    rintro rfl
    rw [kept] at quoted
    exact absurd quoted (by decide)
  have read := multipart?_of_quoted ne quoted "DROP COLUMN [A]"
  rw [kept] at read
  have rests := (Prod.mk.inj (Option.some.inj (early.symm.trans read))).2
  exact absurd rests (by decide)

/-! ## Reading the name back -/

/-- No part of the name stands in brackets. -/
def Unbracketed (name : String) : Prop :=
  ∀ part ∈ parts '.' name.toList, isBracketed part = false

instance (name : String) : Decidable (Unbracketed name) :=
  inferInstanceAs (Decidable (∀ part ∈ parts '.' name.toList, isBracketed part = false))

theorem names?_table (h : Unbracketed name) :
    names? (table name).toList = some (parts '.' name.toList) := by
  rw [names?_eq_some_iff, toList_table]
  refine ⟨_, map_tablePart_ne_nil name, ?_, rfl⟩
  rw [List.forall₂_map_right_iff, List.forall₂_same]
  intro part hp
  rw [tablePart, h part hp, if_neg Bool.false_ne_true]
  exact .bracketed part

/-- **Quoting a table name loses nothing.** A quoted name is not quoted again. If no part of a name
stands in brackets, its quoted form is read as its parts, so that different names of this kind are
quoted differently. -/
theorem quotes_losslessly :
    (∀ name, table (table name) = table name) ∧
    (∀ name, Unbracketed name →
      names? (table name).toList = some (parts '.' name.toList)) ∧
    Set.InjOn table {name | Unbracketed name} := by
  refine ⟨table_table, fun name h => names?_table h, fun name h other h' same => ?_⟩
  have read := names?_table h'
  rw [← same, names?_table h, Option.some_inj] at read
  rw [← String.toList_inj, ← joined_parts '.' name.toList, read, joined_parts]

theorem quotes_losslessly_unbalanced :
    Unbracketed "a]b..[c" ∧ table (table "a]b..[c") = table "a]b..[c" ∧
    names? (table "a]b..[c").toList = some ["a]b".toList, [], "[c".toList] := by
  have h : Unbracketed "a]b..[c" := by decide
  exact ⟨h, quotes_losslessly.1 _, quotes_losslessly.2.1 _ h⟩

end Sql

end TsqlAlter
