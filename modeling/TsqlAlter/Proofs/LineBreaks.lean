import TsqlAlter.Proofs.Compilation
import TsqlAlter.Proofs.Locality
import TsqlAlter.Proofs.Sql.ConstraintName
import TsqlAlter.Proofs.Sql.DefaultLiteral
import TsqlAlter.Proofs.Sql.TableName
import TsqlAlter.Proofs.TypeText

/-!
# Line breaks in statements

No statement breaks its line by itself: a line feed comes from a text of the diff that the statement
takes over as it is. Such texts are the names, the collations, and the defaults that are strings or
expressions. Quoting a text neither adds a line feed nor removes one, and types, numerals and names
of constraints have none.

`IsLine` says of a text that it holds no line feed. `fields` are the texts that a statement holds,
and `inscriptions` those of a column, a change or a diff that statements take over.

Results:
* `Statement.isLine_text_iff`: a statement is a line exactly if the texts it holds are lines.
* `isLine_ofDefault`: the literal of a default is a line exactly if its own text is.
* `Platform.areLines_compile_iff`: the statements of a diff are lines exactly if the texts of the
  diff that they take over (`Release.inscriptions`) are lines.

Left out: statements of another compiler than the plain one. They may hold any text.
-/

namespace TsqlAlter

open Text

/-! ## Lines -/

/-- The text holds no line feed. -/
def IsLine (s : String) : Prop := '\n' ∉ s.toList

instance (s : String) : Decidable (IsLine s) := inferInstanceAs (Decidable ('\n' ∉ s.toList))

/-- The texts hold no line feed. -/
def AreLines (texts : List String) : Prop := ∀ t ∈ texts, IsLine t

instance (texts : List String) : Decidable (AreLines texts) :=
  inferInstanceAs (Decidable (∀ t ∈ texts, IsLine t))

@[simp] theorem isLine_append {s t : String} : IsLine (s ++ t) ↔ IsLine s ∧ IsLine t := by
  simp [IsLine]

@[simp] theorem areLines_nil : AreLines [] := by simp [AreLines]

@[simp] theorem areLines_cons {t : String} {texts : List String} :
    AreLines (t :: texts) ↔ IsLine t ∧ AreLines texts := by
  simp [AreLines]

@[simp] theorem areLines_append {texts more : List String} :
    AreLines (texts ++ more) ↔ AreLines texts ∧ AreLines more := by
  simp [AreLines, or_imp, forall_and]

theorem isLine_repr (n : Nat) : IsLine n.repr := fun broken =>
  absurd (isDigit_of_mem_toString broken) (by decide)

/-! ## Names and literals -/

namespace Sql

@[simp] theorem isLine_column {name : String} : IsLine (column name) ↔ IsLine name := by
  simp [IsLine, column, bracketed]

@[simp] theorem isLine_literal {text : String} : IsLine (literal text) ↔ IsLine text := by
  simp [IsLine, literal]

@[simp] theorem isLine_table {name : String} : IsLine (table name) ↔ IsLine name := by
  have feed : '\n' ≠ '.' := by decide
  unfold IsLine
  rw [toList_table, mem_joined feed, not_iff_not]
  conv => rhs; rw [← joined_parts '.' name.toList, mem_joined feed]
  simp [mem_tablePart]

theorem isLine_hash (s : String) : IsLine (Checksum.hash s) := fun broken =>
  absurd (isAlphanum_of_isHexDigit (Checksum.isHexDigit_of_mem_hash broken)) (by decide)

@[simp] theorem isLine_constraintName (table column : String) :
    IsLine (constraintName table column) := by
  simp +decide [constraintName, isLine_hash]

end Sql

theorem Size.isLine_text (size : Size) : IsLine size.text := by
  cases size with
  | count n => exact isLine_repr n
  | max => decide

theorem SqlType.isLine_text (t : SqlType) : IsLine t.text := by
  have keyword : IsLine t.keyword := by cases t <;> simp only [SqlType.keyword] <;> decide
  have parameters : IsLine t.parameters := by
    cases t <;> simp +decide [SqlType.parameters, Size.isLine_text, isLine_repr]
  exact isLine_append.2 ⟨keyword, parameters⟩

/-! ## Defaults -/

/-- The text of a default that its literal takes over. -/
def DefaultValue.inscriptions : DefaultValue → List String
  | string s => [s]
  | expression sql => [sql]
  | _ => []

theorem Layout.mem_positional {whole : List Char} {d : Decimal} {c : Char}
    (h : c ∈ positional whole d) : c.isDigit = true ∨ c = '.' ∨ c ∈ whole := by
  have digit {c : Char} (hc : c ∈ Nat.toDigits 10 d.digits) : c.isDigit = true :=
    Nat.isDigit_of_mem_toDigits (by decide) (by decide) hc
  have zero {n : Nat} {c : Char} (hc : c ∈ zeros n) : c.isDigit = true := by
    rw [List.eq_of_mem_replicate hc]
    decide
  unfold positional at h
  dsimp only at h
  split at h
  · simp only [List.mem_append] at h
    obtain (hc | hc) | hc := h
    · exact .inl (digit hc)
    · exact .inl (zero hc)
    · exact .inr (.inr hc)
  split at h
  · simp only [List.mem_append, List.mem_cons] at h
    obtain hc | rfl | hc := h
    · exact .inl (digit (List.mem_of_mem_take hc))
    · exact .inr (.inl rfl)
    · exact .inl (digit (List.mem_of_mem_drop hc))
  · simp only [List.mem_append, List.mem_cons, List.not_mem_nil, or_false] at h
    obtain ((rfl | rfl) | hc) | hc := h
    · exact .inl (by decide)
    · exact .inr (.inl rfl)
    · exact .inl (zero hc)
    · exact .inl (digit hc)

/-- No number is written with a line feed. -/
theorem isLine_sqlNumberLayout (x : Binary64) : IsLine (sqlNumberLayout.text x) := by
  have sign : IsLine (if x.negative then "-" else "") := by split <;> decide
  have digits : IsLine
      (String.ofList (sqlNumberLayout.decimal (x.shortest sqlNumberLayout.tie))) := by
    unfold IsLine
    rw [String.toList_ofList]
    intro broken
    obtain digit | point | whole := Layout.mem_positional broken
    · exact absurd digit (by decide)
    · exact absurd point (by decide)
    · exact absurd whole (by decide)
  unfold Layout.text
  dsimp only
  split
  · decide
  split
  · exact isLine_append.2 ⟨sign, by decide⟩
  · exact isLine_append.2 ⟨sign, digits⟩

theorem isLine_repr_int (i : Int) : IsLine i.repr := by
  have digits (n : Nat) : '\n' ∉ Nat.toDigits 10 n := not_mem_toDigits (by decide) n
  show '\n' ∉ (toString i).toList
  by_cases negative : i < 0
  · rw [toList_toString_of_neg negative]
    simp [digits]
  · obtain ⟨n, rfl⟩ := Int.eq_ofNat_of_zero_le (Int.not_lt.1 negative)
    rw [toList_toString_natCast]
    exact digits n

/-- **The literal of a default is a line exactly if its own text is.** -/
theorem isLine_ofDefault {column literal : String} {v : DefaultValue}
    (h : Sql.ofDefault column v = .ok literal) : IsLine literal ↔ AreLines v.inscriptions := by
  cases v <;> simp only [Sql.ofDefault] at h
  case null =>
    cases h
    exact iff_of_true (by decide) areLines_nil
  case boolean b =>
    cases h
    exact iff_of_true (by cases b <;> decide) areLines_nil
  case integer i =>
    cases h
    simp [DefaultValue.inscriptions, isLine_repr_int]
  case float x =>
    split at h
    · cases h
      simp [DefaultValue.inscriptions, isLine_sqlNumberLayout]
    · cases h
  case string s =>
    cases h
    unfold Sql.stringLiteral
    split <;> simp +decide [DefaultValue.inscriptions]
  case expression sql =>
    split at h
    · cases h
    · cases h
      simp [DefaultValue.inscriptions]

/-! ## Statements -/

/-- The texts that a declaration holds. -/
def Declaration.fields (d : Declaration) : List String := d.name :: d.type :: d.collation.toList

/-- The texts that a statement holds. -/
def Statement.fields : Statement → List String
  | addColumn table column default => table :: column.fields ++
      (default.toList.flatMap fun constraint => [constraint.name, constraint.literal])
  | dropColumn table column => [table, column]
  | alterColumn table column => table :: column.fields
  | addDefault table default column => [table, default.name, default.literal, column]
  | dropDefault table constraint => [table, constraint]
  | dropDefaultIfExists table constraint => [table, constraint]
  | renameColumn table oldName newName => [table, oldName, newName]
  | renameTable oldName newName => [oldName, newName]
  | verbatim sql => [sql]

/-- The words of a statement. -/
theorem isLine_words : AreLines ["", " ", "ALTER TABLE ", " ADD ", " IDENTITY", " COLLATE ",
    " NOT NULL", "CONSTRAINT ", " DEFAULT ", " FOR ", " DROP COLUMN ", " ALTER COLUMN ",
    " DROP CONSTRAINT ", "IF EXISTS(SELECT 1 FROM sys.objects WHERE type_desc = " ++
      "'DEFAULT_CONSTRAINT' AND name = '", "') BEGIN ALTER TABLE ", "; END", "EXEC sp_rename ",
    ".", ", ", ", 'COLUMN'"] := by
  simp [IsLine]

theorem Declaration.isLine_text_iff (d : Declaration) : IsLine d.text ↔ AreLines d.fields := by
  have words := isLine_words
  simp only [areLines_cons, areLines_nil, and_true] at words
  obtain ⟨name, type, identity, collation, nullable⟩ := d
  cases identity <;> cases collation <;> cases nullable <;> simp [text, fields, words, and_assoc]

/-- **A statement is a line exactly if the texts it holds are lines.** -/
theorem Statement.isLine_text_iff (s : Statement) : IsLine s.text ↔ AreLines s.fields := by
  have words := isLine_words
  simp only [areLines_cons, areLines_nil, and_true] at words
  unfold text fields
  cases s with
  | addColumn table column default =>
    cases default <;>
      simp [column.isLine_text_iff, DefaultConstraint.text, words, and_assoc]
  | alterColumn table column => simp [column.isLine_text_iff, words]
  | addDefault table default column => simp [DefaultConstraint.text, words, and_assoc]
  | dropDefaultIfExists table constraint =>
    simp only [isLine_append, Sql.isLine_table, words, areLines_cons, areLines_nil]
    grind
  | _ => simp [words, and_assoc]

/-! ## Statements of a diff -/

theorem areLines_flatMap {α : Type} {f : α → List String} {as : List α} :
    AreLines (as.flatMap f) ↔ ∀ a ∈ as, AreLines (f a) := by
  simp only [AreLines, List.mem_flatMap]
  grind

/-- If the statements of each entry are lines exactly if its texts are, this is true of all entries
together. -/
theorem areLines_flatten_iff {α : Type} {R : α → List Statement → Prop} {f : α → List String}
    (each : ∀ a part, R a part → (AreLines (part.map Statement.text) ↔ AreLines (f a)))
    {as : List α} {parts : List (List Statement)} (h : List.Forall₂ R as parts) :
    AreLines (parts.flatten.map Statement.text) ↔ AreLines (as.flatMap f) := by
  induction h with
  | nil => rfl
  | cons first _ ih =>
    rw [List.flatten_cons, List.map_append, areLines_append, each _ _ first, ih,
      List.flatMap_cons, areLines_append]

/-- The texts of a column that its declaration takes over. -/
def Column.inscriptions (c : Column) : List String := c.name :: c.collation.toList

/-- The texts of a column that the statement which adds it takes over. -/
def Column.additionInscriptions (c : Column) : List String :=
  c.inscriptions ++ c.constrainedDefault?.toList.flatMap DefaultValue.inscriptions

/-- The texts that the statements of a change take over. -/
def Change.inscriptions (table : String) (c : Change) : List String :=
  (if c.renames then [table, c.oldName, c.after.name] else []) ++
    (if c.dropsConstraint then [table] else []) ++
    (if c.altersDefinition then table :: c.after.inscriptions else []) ++
    (c.addedDefault?.toList.flatMap fun v => table :: c.after.name :: v.inscriptions)

/-- The texts of a diff that its statements take over. Of a change these are the texts of what is
left of it. -/
def Release.inscriptions (r : Release) (d : TableDiff) : List String :=
  (d.added.flatMap fun c => d.name :: c.additionInscriptions) ++
    (d.removed.flatMap fun c => [d.name, c.name]) ++
    (d.changed.flatMap fun c =>
      (r.dialect.reduce c).toOption.toList.flatMap (Change.inscriptions d.name)) ++
    (d.renamed.flatMap fun x => [d.name, x.oldName, x.column.name]) ++
    d.newName.toList.flatMap fun n => [d.name, n]

namespace Release

variable {r : Release} {table : String}

theorem areLines_declare_iff {c : Column} {declaration : Declaration}
    (h : r.dialect.declare c = .ok declaration) :
    AreLines declaration.fields ↔ AreLines c.inscriptions := by
  obtain ⟨type, typed, rfl⟩ := (r.dialect.declare_eq_ok_iff c declaration).1 h
  obtain ⟨t, -, rfl⟩ := (typeText_eq_ok_iff r c type).1 typed
  simp [Declaration.fields, Column.inscriptions, t.isLine_text]

theorem isLine_adds_iff {c : Column} {s : Statement} (h : r.dialect.Adds table c s) :
    IsLine s.text ↔ AreLines (table :: c.additionInscriptions) := by
  obtain ⟨declaration, default, declared, rfl, constrained⟩ := h
  rw [Statement.isLine_text_iff, Statement.fields, Column.additionInscriptions]
  cases value : c.constrainedDefault? with
  | none =>
    rw [value] at constrained
    cases constrained
    simp [areLines_declare_iff declared]
  | some v =>
    rw [value] at constrained
    obtain ⟨literal, written, rfl⟩ := constrained
    simp [areLines_declare_iff declared, isLine_ofDefault written]

theorem areLines_redefinition_iff {c : Change} {ss : List Statement}
    (h : r.dialect.redefinition table c = .ok ss) :
    AreLines (ss.map Statement.text) ↔
      AreLines (if c.altersDefinition then table :: c.after.inscriptions else []) := by
  rw [Dialect.redefinition_eq_ok_iff] at h
  split at h
  · next alters =>
    obtain ⟨declaration, declared, rfl⟩ := h
    simp [alters, Statement.isLine_text_iff, Statement.fields, areLines_declare_iff declared]
  · next keeps =>
    rw [h, if_neg keeps, List.map_nil]

theorem areLines_defaultStatement_iff {c : Column} {default : Option DefaultValue}
    {ss : List Statement} (h : r.dialect.defaultStatement table c default = .ok ss) :
    AreLines (ss.map Statement.text) ↔
      AreLines (default.toList.flatMap fun v => table :: c.name :: v.inscriptions) := by
  rw [Dialect.defaultStatement_eq_ok_iff] at h
  cases default with
  | none => rw [h]; rfl
  | some v =>
    obtain ⟨literal, written, rfl⟩ := h
    simp [Statement.isLine_text_iff, Statement.fields, isLine_ofDefault written, and_comm]

theorem areLines_changeStatements_iff {c : Change} {ss : List Statement}
    (h : r.dialect.changeStatements table c = .ok ss) :
    AreLines (ss.map Statement.text) ↔ AreLines (c.inscriptions table) := by
  obtain ⟨redefine, default, redefined, defaulted, rfl⟩ := Dialect.changeStatements_eq_ok_iff.1 h
  have rename : AreLines ((if c.renames then [Statement.renameColumn table c.oldName c.after.name]
      else []).map Statement.text) ↔
        AreLines (if c.renames then [table, c.oldName, c.after.name] else []) := by
    split <;> simp [Statement.isLine_text_iff, Statement.fields]
  have drop : AreLines ((if c.dropsConstraint then
      [Statement.dropDefault table (Sql.constraintName table c.oldName)] else []).map
        Statement.text) ↔ AreLines (if c.dropsConstraint then [table] else []) := by
    split <;> simp [Statement.isLine_text_iff, Statement.fields]
  simp only [List.map_append, areLines_append, Change.inscriptions, rename, drop,
    areLines_redefinition_iff redefined, areLines_defaultStatement_iff defaulted]

theorem areLines_emits_iff {c : Change} {part : List Statement}
    (h : r.dialect.Emits table c part) : AreLines (part.map Statement.text) ↔
      AreLines ((r.dialect.reduce c).toOption.toList.flatMap (Change.inscriptions table)) := by
  obtain ⟨k, reduced, emitted⟩ := h
  rw [areLines_changeStatements_iff emitted, reduced]
  simp [Except.toOption]

end Release

namespace Platform

open Dialect

/-- The drop of a constraint adds nothing to the removal of its column. -/
theorem areLines_removals_iff (d : TableDiff) :
    AreLines ((guardedDrops d ++ Dialect.removals d).map Statement.text) ↔
      AreLines (d.removed.flatMap fun c => [d.name, c.name]) := by
  have drop (c : Column) :
      IsLine (Statement.dropDefaultIfExists d.name (Sql.constraintName d.name c.name)).text ↔
        IsLine d.name := by
    simp [Statement.isLine_text_iff, Statement.fields]
  have removal (c : Column) : IsLine (Statement.dropColumn d.name c.name).text ↔
      AreLines [d.name, c.name] := Statement.isLine_text_iff _
  rw [areLines_flatMap, List.map_append, areLines_append, and_iff_right_iff_imp.2]
  · simp only [AreLines, Dialect.removals, List.map_map, List.forall_mem_map, Function.comp_apply,
      removal]
  · intro removed
    simp only [AreLines, guardedDrops, List.map_map, List.forall_mem_map, Function.comp_apply, drop]
    intro c hc
    have whole := removed _ (List.mem_map_of_mem (List.mem_map_of_mem (List.mem_of_mem_filter hc)))
    exact (areLines_cons.1 ((removal c).1 whole)).1

/-- **The statements of a diff are lines exactly if the texts of the diff that they take over are
lines.** -/
theorem areLines_compile_iff {r : Release} {d : TableDiff} {ss : List Statement}
    (h : (ofRelease r).compile d = .ok ss) :
    AreLines (ss.map Statement.text) ↔ AreLines (r.inscriptions d) := by
  obtain ⟨additions, changes, adds, emits, rfl⟩ := compile_eq_ok_iff.1 h
  have added : AreLines (additions.map Statement.text) ↔
      AreLines (d.added.flatMap fun c => d.name :: c.additionInscriptions) := by
    have whole := areLines_flatten_iff (f := fun c => d.name :: c.additionInscriptions) ?_
      (forall₂_singleton_iff.2 ⟨additions, adds, rfl⟩)
    · rwa [← List.flatMap_def, List.flatMap_singleton'] at whole
    · rintro c part ⟨s, hs, rfl⟩
      rw [List.map_singleton, areLines_cons, Release.isLine_adds_iff hs]
      simp
  have removed := areLines_removals_iff d
  have changed := areLines_flatten_iff (R := r.dialect.Emits d.name)
    (fun _ _ => Release.areLines_emits_iff) emits
  have renamed : AreLines ((columnRenames d).map Statement.text) ↔
      AreLines (d.renamed.flatMap fun x => [d.name, x.oldName, x.column.name]) := by
    rw [areLines_flatMap, columnRenames, List.map_map]
    simp [AreLines, Statement.isLine_text_iff, Statement.fields]
  have named : AreLines ((Dialect.tableRename d).map Statement.text) ↔
      AreLines (d.newName.toList.flatMap fun n => [d.name, n]) := by
    rw [Dialect.tableRename]
    cases d.newName <;> simp [Statement.isLine_text_iff, Statement.fields]
  simp only [List.map_append, areLines_append] at removed ⊢
  simp only [Release.inscriptions, areLines_append, added, ← removed, changed, renamed, named]
  grind

end Platform

end TsqlAlter
