import TsqlAlter.Sql.Name

/-!
# Statements

The statements that change a table. Names are held as the host gives them; types and literals are
already SQL text. A statement of any other kind, from a compiler of the host, is held as its text.
`Statement.text` is the text that goes to the server.
-/

namespace TsqlAlter

/-- A column as a statement declares it, its default apart. -/
structure Declaration where
  name : String
  /-- The SQL type. -/
  type : String
  identity : Bool
  collation : Option String
  nullable : Bool
deriving DecidableEq, Repr

/-- The text of a declaration. -/
def Declaration.text (d : Declaration) : String :=
  Sql.column d.name ++ " " ++ d.type ++
    (if d.identity then " IDENTITY" else "") ++
    (match d.collation with
      | some collation => " COLLATE " ++ collation
      | none => "") ++
    (if d.nullable then "" else " NOT NULL")

/-- A default constraint. -/
structure DefaultConstraint where
  name : String
  /-- The default as an SQL literal. -/
  literal : String
deriving DecidableEq, Repr

/-- The text of a default constraint. -/
def DefaultConstraint.text (c : DefaultConstraint) : String :=
  "CONSTRAINT " ++ c.name ++ " DEFAULT " ++ c.literal

/-- A statement. -/
inductive Statement where
  | addColumn (table : String) (column : Declaration) (default : Option DefaultConstraint)
  | dropColumn (table column : String)
  | alterColumn (table : String) (column : Declaration)
  | addDefault (table : String) (default : DefaultConstraint) (column : String)
  | dropDefault (table constraint : String)
  /-- Drops a default constraint if there is one of that name. -/
  | dropDefaultIfExists (table constraint : String)
  | renameColumn (table oldName newName : String)
  | renameTable (oldName newName : String)
  | verbatim (sql : String)
deriving DecidableEq, Repr

namespace Statement

/-- The SQL text of a statement. -/
def text : Statement → String
  | addColumn table column default =>
    "ALTER TABLE " ++ Sql.table table ++ " ADD " ++ column.text ++
      (match default with
        | some default => " " ++ default.text
        | none => "")
  | dropColumn table column =>
    "ALTER TABLE " ++ Sql.table table ++ " DROP COLUMN " ++ Sql.column column
  | alterColumn table column =>
    "ALTER TABLE " ++ Sql.table table ++ " ALTER COLUMN " ++ column.text
  | addDefault table default column =>
    "ALTER TABLE " ++ Sql.table table ++ " ADD " ++ default.text ++ " FOR " ++ Sql.column column
  | dropDefault table constraint =>
    "ALTER TABLE " ++ Sql.table table ++ " DROP CONSTRAINT " ++ constraint
  | dropDefaultIfExists table constraint =>
    "IF EXISTS(SELECT 1 FROM sys.objects WHERE type_desc = 'DEFAULT_CONSTRAINT' AND name = '" ++
      constraint ++ "') BEGIN ALTER TABLE " ++ Sql.table table ++ " DROP CONSTRAINT " ++
      constraint ++ "; END"
  | renameColumn table oldName newName =>
    "EXEC sp_rename " ++ Sql.literal (table ++ "." ++ oldName) ++ ", " ++ Sql.literal newName ++
      ", 'COLUMN'"
  | renameTable oldName newName =>
    "EXEC sp_rename " ++ Sql.literal oldName ++ ", " ++ Sql.literal newName
  | verbatim sql => sql

end Statement

end TsqlAlter
