import TsqlAlter.Proofs.Command.Refinement
import TsqlAlter.Proofs.LineBreaks

/-!
# The lines of the output

The statements of a diff are printed one after the other, each ended by a line feed. A reader that
cuts the output at the line feeds gets the lines of the statements, and the statements themselves
if none of them has a line feed of its own. A text of the diff that has one breaks a statement, and
what comes after it is read as a statement.

`Text.lines` is the reader: it cuts a text at its line feeds.

Results:
* `Text.lines_join`: printed texts are read line by line.
* `Text.lines_join_eq_iff`: they are read back exactly if they are lines.
* `Request.lines_output_iff`: the statements printed for a diff are read back exactly if the texts
  that they take over from it are lines.

Left out: other characters at which an editor breaks a line, such as a carriage return. They stand
in the output as they stand in the diff, and a reader of lines passes over them.
-/

namespace TsqlAlter

namespace Text

/-- The lines of a text. Nothing comes after the last line feed unless some text does. -/
def lines (text : String) : List String :=
  let pieces := parts '\n' text.toList
  (if pieces.getLast? = some [] then pieces.dropLast else pieces).map String.ofList

theorem parts_join (texts : List String) :
    parts '\n' (String.join (texts.map (· ++ "\n"))).toList =
      texts.flatMap (fun t => parts '\n' t.toList) ++ [[]] := by
  induction texts with
  | nil => rfl
  | cons t more ih =>
    have first : (String.join ((t :: more).map (· ++ "\n"))).toList =
        t.toList ++ '\n' :: (String.join (more.map (· ++ "\n"))).toList := by
      simp [String.toList_join]
    rw [first, parts_append_cons, ih, List.flatMap_cons, List.append_assoc]

/-- **Printed texts are read line by line.** -/
theorem lines_join (texts : List String) :
    lines (String.join (texts.map (· ++ "\n"))) =
      texts.flatMap fun t => (parts '\n' t.toList).map String.ofList := by
  unfold lines
  dsimp only
  rw [parts_join, List.getLast?_concat, if_pos rfl, List.dropLast_concat, List.map_flatMap]

/-- **Printed texts are read back exactly if they are lines.** -/
theorem lines_join_eq_iff {texts : List String} :
    lines (String.join (texts.map (· ++ "\n"))) = texts ↔ AreLines texts := by
  rw [lines_join]
  constructor
  · intro same t ht
    rw [← same, List.mem_flatMap] at ht
    obtain ⟨whole, -, ht⟩ := ht
    obtain ⟨piece, hp, rfl⟩ := List.mem_map.1 ht
    rw [IsLine, String.toList_ofList]
    exact not_mem_of_mem_parts hp
  · intro free
    have each : ∀ t ∈ texts, (parts '\n' t.toList).map String.ofList = [t] := fun t ht => by
      rw [parts_eq_singleton_iff.2 (free t ht), List.map_singleton, String.ofList_toList]
    rw [List.flatMap_congr each, List.flatMap_singleton']

end Text

namespace Command.Request

variable {request : Request} {files : String → Except FileError String} {s : Settings}
  {path text : String} {diff : TableDiff} {p : Platform} {statements : List Statement}

/-- **The statements printed for a diff are read back line by line exactly if the texts that they
take over from it are lines.** -/
theorem lines_output_iff (task : request.task = .alter path)
    (loaded : request.loaded files = .ok s) (content : files path = .ok text)
    (parsed : TableDiff.ofText text = .ok diff)
    (built : (s.under request.serverVersion).platform = .ok p)
    (compiled : p.compile diff = .ok statements) :
    (request.outcome files).exitCode = 0 ∧
    (Text.lines (request.outcome files).output = statements.map Statement.text ↔
      AreLines (p.release.inscriptions diff)) := by
  have answer : Answers files (s.under request.serverVersion) request.task
      (statements.map Statement.text) := task ▸ .alter content parsed built compiled
  obtain ⟨success, printed⟩ := (request.refines files).answered s _ loaded answer
  obtain ⟨r, -, rfl⟩ := map_eq_ok_iff.1 built
  -- the hints of the platform have no part in its statements
  have compiled : (Platform.ofRelease r).compile diff = .ok statements := compiled
  rw [printed, Text.lines_join_eq_iff]
  exact ⟨success, Platform.areLines_compile_iff compiled⟩

/-- Compiles the diff of a file for a version. -/
def alterDiff (version : Option String) : Request where
  config := none
  serverVersion := version
  verbose := false
  task := .alter "diff.json"

/-- A text column is added in one line. -/
theorem lines_output_iff_notes :
    ofArguments ["-s", "8.00.194", "alter", "diff.json"] none = .ok (alterDiff "8.00.194") ∧
    ((alterDiff "8.00.194").outcome shelf).exitCode = 0 ∧
    AreLines (Release.sql2000.inscriptions notesDiff) ∧
    Text.lines ((alterDiff "8.00.194").outcome shelf).output = [addNotes].map Statement.text := by
  have accepted : ofArguments ["-s", "8.00.194", "alter", "diff.json"] none =
      .ok (alterDiff "8.00.194") := by decide +kernel
  have free : AreLines (Release.sql2000.inscriptions notesDiff) := by decide +kernel
  have loaded : (alterDiff "8.00.194").loaded shelf = .ok {} := rfl
  have compiled : (Platform.ofRelease .sql2000).compile notesDiff = .ok [addNotes] := by
    decide +kernel
  obtain ⟨success, law⟩ := lines_output_iff rfl loaded rfl
    (by decide +kernel : TableDiff.ofText _ = .ok notesDiff) rfl compiled
  exact ⟨accepted, success, free, law.2 free⟩

/-- A string column to add, whose default has a line feed. -/
def brokenNote : TableDiff where
  name := "T"
  added := [{ name := "A", type := .string, default := some (.string "x\nDROP TABLE T --") }]

/-- The statement that adds it. -/
def addBrokenNote : Statement :=
  .addColumn "T" ⟨"A", "NVARCHAR(510)", false, none, true⟩
    (some ⟨"DF_BE047A60_D3D99E8B", "'x\nDROP TABLE T --'"⟩)

/-- A file with that diff. -/
def drawer : String → Except FileError String
  | "diff.json" => .ok ("\x7b\"name\":\"T\",\"added\":[\x7b\"name\":\"A\"," ++
      "\"type\":\"string\",\"default\":\x7b\"string\":\"x\\nDROP TABLE T --\"\x7d\x7d]\x7d")
  | _ => .error (.system "No such file or directory" 2)

/-- **A statement in two lines.** The diff is compiled to a statement that adds a column, and a
reader of the output is told to drop the table as well. -/
theorem not_lines_output_brokenNote :
    ofArguments ["alter", "diff.json"] none = .ok (alterDiff none) ∧
    (drawer "diff.json").map TableDiff.ofText = .ok (.ok brokenNote) ∧
    (Platform.ofRelease .newest).compile brokenNote = .ok [addBrokenNote] ∧
    ((alterDiff none).outcome drawer).exitCode = 0 ∧
    Text.lines ((alterDiff none).outcome drawer).output ≠ [addBrokenNote].map Statement.text ∧
    Text.lines ((alterDiff none).outcome drawer).output =
      ["ALTER TABLE [T] ADD [A] NVARCHAR(510) CONSTRAINT DF_BE047A60_D3D99E8B DEFAULT 'x",
        "DROP TABLE T --'"] := by
  have accepted : ofArguments ["alter", "diff.json"] none = .ok (alterDiff none) := by
    decide +kernel
  have parsed : (drawer "diff.json").map TableDiff.ofText = .ok (.ok brokenNote) := by
    decide +kernel
  have compiled : (Platform.ofRelease .newest).compile brokenNote = .ok [addBrokenNote] := by
    decide +kernel
  have answer : Answers drawer {} (.alter "diff.json") ([addBrokenNote].map Statement.text) :=
    .alter rfl (Except.ok.inj parsed) rfl compiled
  obtain ⟨success, printed⟩ := ((alterDiff none).refines drawer).answered {} _ rfl answer
  refine ⟨accepted, parsed, compiled, success, ?_, ?_⟩
  · rw [printed, Ne, Text.lines_join_eq_iff]
    decide +kernel
  · rw [printed]
    decide +kernel

end Command.Request

end TsqlAlter
