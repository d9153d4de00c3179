import TsqlAlter.Command.Run
import TsqlAlter.Proofs.Command.Requests

/-!
# What a command line prints

A run prints what the functions behind its command give for the settings in force, and nothing when
one of them fails. The settings are those of the settings file, or blank ones without such a file,
under the version of the command line. What a command has to give is a relation of its own
(`Answers`), with one rule for each command and one premise for each step that may fail; it does not
mention the run. Files are a function that stays as it is during the run.

Results:
* `perform_result_eq_ok_iff`, `Request.outcome_result_eq_ok_iff`: the lines of a run are the answer
  to its request.
* `Request.refines`: what any request prints and when it fails (`Refines`), and that its version
  stands for one in the settings file.
* `Request.outcome_refines`: the same for an accepted command line, with what it is accepted as
  (`Request.IsSpelledBy`), and a version in front of it.

Left out: what a run tells besides, that is its notes and the report on a failure. Of a failed run
the output is empty and the exit code 1, whatever the failure.
-/

namespace TsqlAlter

/-- The settings under a version given apart from them. -/
def Settings.under (s : Settings) (version : Option String) : Settings :=
  { s with serverVersion := version.or s.serverVersion }

namespace Command

namespace Outcome

/-- The run succeeded and printed these lines. -/
def Prints (o : Outcome) (lines : List String) : Prop :=
  o.exitCode = 0 ∧ o.output = String.join (lines.map (· ++ "\n"))

/-- The run failed and printed nothing. -/
def Fails (o : Outcome) : Prop := o.exitCode = 1 ∧ o.output = ""

theorem prints_of_result {o : Outcome} {lines : List String} (h : o.result = .ok lines) :
    o.Prints lines := by
  simp [Prints, exitCode, output, h]

/-- Without a result no part of one is printed. -/
theorem fails_of_result {o : Outcome} (h : ¬∃ lines, o.result = .ok lines) : o.Fails := by
  cases hr : o.result with
  | error f => simp [Fails, exitCode, output, hr]
  | ok lines => exact absurd ⟨lines, hr⟩ h

theorem agree_of_result {o o' : Outcome} (h : o.result = o'.result) :
    o.output = o'.output ∧ o.exitCode = o'.exitCode := by
  simp [output, exitCode, h]

end Outcome

/-! ## The answer to a task -/

/-- The lines that answer a task. Each premise is a step that may fail. -/
inductive Answers (files : String → Except FileError String) (settings : Settings) :
    Task → List String → Prop where
  | alter {path text : String} {diff : TableDiff} {p : Platform} {statements : List Statement}
      (content : files path = .ok text) (parsed : TableDiff.ofText text = .ok diff)
      (built : settings.platform = .ok p) (compiled : p.compile diff = .ok statements) :
      Answers files settings (.alter path) (statements.map Statement.text)
  | constraintName (table column : String) :
      Answers files settings (.constraintName table column) [Sql.constraintName table column]
  | lockHint (clause : String) (mode : LockMode) {p : Platform}
      (built : settings.platform = .ok p) :
      Answers files settings (.lockHint clause mode) [p.appendHint clause mode]
  | dsn (flags : Connection) {base : Connection} (configured : settings.connection.getD {} = base) :
      Answers files settings (.dsn flags) [Connection.dsn
        { host := flags.host.or base.host
          port := flags.port.or base.port
          dbname := flags.dbname.or base.dbname
          charset := flags.charset.or base.charset } .native]
  | platform {version : String} {r : Release} (parsed : Release.ofVersion version = .ok r) :
      Answers files settings (.platform version) [r.name]

variable {files files' : String → Except FileError String} {settings s : Settings}
  {lines : List String}

theorem onPlatform_result_eq_ok_iff {next : Platform → Outcome} :
    (onPlatform settings next).result = .ok lines ↔
      ∃ p, settings.platform = .ok p ∧ (next p).result = .ok lines := by
  unfold onPlatform
  cases settings.platform <;> simp [Outcome.after]

theorem quiet_result_eq_ok_iff {result : Except Error (List String)} :
    (Outcome.quiet result).result = .ok lines ↔ result = .ok lines := by
  cases result <;> simp [Outcome.quiet, Except.mapError]

theorem compile_result_eq_ok_iff {diff : TableDiff} {p : Platform} :
    (compile diff p).result = .ok lines ↔
      ∃ statements, p.compile diff = .ok statements ∧ statements.map Statement.text = lines := by
  unfold compile
  cases p.compile diff <;> simp

theorem alter_result_eq_ok_iff {path : String} {content : Except FileError String} :
    (alter settings path content).result = .ok lines ↔
      ∃ text diff, content = .ok text ∧ TableDiff.ofText text = .ok diff ∧
        (onPlatform settings (compile diff)).result = .ok lines := by
  unfold alter
  cases content with
  | error e => simp
  | ok text => cases hd : TableDiff.ofText text <;> simp [hd]

/-- A task performed over files that stay as they are. -/
def performed (files : String → Except FileError String) (settings : Settings) (task : Task) :
    Outcome :=
  Id.run (perform (fun path => pure (files path)) settings task)

/-- The lines of a performed task are the answer to it. -/
theorem perform_result_eq_ok_iff {task : Task} :
    (performed files settings task).result = .ok lines ↔ Answers files settings task lines := by
  constructor
  · intro h
    cases task with
    | alter path =>
      obtain ⟨text, diff, content, parsed, h⟩ := alter_result_eq_ok_iff.1 h
      obtain ⟨p, built, h⟩ := onPlatform_result_eq_ok_iff.1 h
      obtain ⟨statements, compiled, rfl⟩ := compile_result_eq_ok_iff.1 h
      exact .alter content parsed built compiled
    | constraintName table column =>
      cases h
      exact .constraintName table column
    | lockHint clause mode =>
      obtain ⟨p, built, h⟩ := onPlatform_result_eq_ok_iff.1 h
      cases h
      exact .lockHint clause mode built
    | dsn flags =>
      cases h
      exact .dsn flags rfl
    | platform version =>
      obtain ⟨r, parsed, rfl⟩ := map_eq_ok_iff.1 (quiet_result_eq_ok_iff.1 h)
      exact .platform parsed
  · intro h
    cases h with
    | alter content parsed built compiled =>
      exact alter_result_eq_ok_iff.2 ⟨_, _, content, parsed, onPlatform_result_eq_ok_iff.2
        ⟨_, built, compile_result_eq_ok_iff.2 ⟨_, compiled, rfl⟩⟩⟩
    | constraintName table column => rfl
    | lockHint clause mode built => exact onPlatform_result_eq_ok_iff.2 ⟨_, built, rfl⟩
    | dsn flags configured =>
      subst configured
      rfl
    | platform parsed =>
      exact quiet_result_eq_ok_iff.2 (map_eq_ok_iff.2 ⟨_, parsed, rfl⟩)

/-- A task reads no file but its diff. -/
theorem performed_congr {task : Task}
    (same : ∀ path, task = .alter path → files' path = files path) :
    performed files' settings task = performed files settings task := by
  cases task with
  | alter path =>
    show alter settings path (files' path) = alter settings path (files path)
    rw [same path rfl]
  | _ => rfl

/-! ## The outcome of a request -/

namespace Request

variable {request : Request}

/-- The outcome of a request over files that stay as they are. -/
def outcome (request : Request) (files : String → Except FileError String) : Outcome :=
  Id.run (run (fun path => pure (files path)) request)

/-- The settings of the settings file, or blank ones without one. -/
def loaded (request : Request) (files : String → Except FileError String) :
    Except Error Settings :=
  match request.config with
  | none => .ok {}
  | some path => Settings.ofFile (files path)

/-- A request ends as its task does under the settings loaded and the version of the request, unless
loading them fails. -/
theorem outcome_result (request : Request) (files : String → Except FileError String) :
    (request.outcome files).result =
      match request.loaded files with
      | .error e => .error (.settings (request.config.getD "") e)
      | .ok s => (performed files (s.under request.serverVersion) request.task).result := by
  unfold outcome run loaded
  cases request.config with
  | none => rfl
  | some path =>
    have inForce : effective request (some (files path)) =
        (Settings.ofFile (files path)).map (·.under request.serverVersion) := by
      rw [effective]
      cases Settings.ofFile (files path) <;> rfl
    simp only [pure_bind]
    rw [inForce]
    cases Settings.ofFile (files path) <;> rfl

theorem outcome_of_loaded (h : request.loaded files = .ok s) :
    (request.outcome files).result =
      (performed files (s.under request.serverVersion) request.task).result := by
  rw [outcome_result, h]

/-- The lines of a run are the answer to its task under the loaded settings and its version. -/
theorem outcome_result_eq_ok_iff :
    (request.outcome files).result = .ok lines ↔
      ∃ s, request.loaded files = .ok s ∧
        Answers files (s.under request.serverVersion) request.task lines := by
  rw [outcome_result]
  cases request.loaded files with
  | error e => simp
  | ok s => simp [perform_result_eq_ok_iff]

/-- What a request comes to, whatever the files hold. -/
structure Refines (request : Request) (files : String → Except FileError String) : Prop where
  /-- A settings file that cannot be loaded fails every command. -/
  refused : ∀ e, request.loaded files = .error e → (request.outcome files).Fails
  /-- Otherwise the answer to the task under the settings in force is printed, -/
  answered : ∀ s lines, request.loaded files = .ok s →
    Answers files (s.under request.serverVersion) request.task lines →
    (request.outcome files).Prints lines
  /-- and nothing if there is none. -/
  unanswered : ∀ s, request.loaded files = .ok s →
    (¬∃ lines, Answers files (s.under request.serverVersion) request.task lines) →
    (request.outcome files).Fails
  /-- A version on the command line stands for that version in the settings, whatever version they
  have themselves. -/
  overruled : ∀ s version, request.loaded files = .ok s → request.serverVersion = some version →
    ∀ arguments' environment' request' files',
      ofArguments arguments' environment' = .ok request' →
      request'.serverVersion = none → request'.task = request.task →
      request'.loaded files' = .ok { s with serverVersion := some version } →
      (∀ path, request.task = .alter path → files' path = files path) →
      (request'.outcome files').output = (request.outcome files).output ∧
        (request'.outcome files').exitCode = (request.outcome files).exitCode

theorem refines (request : Request) (files : String → Except FileError String) :
    request.Refines files where
  refused e refused := by
    refine Outcome.fails_of_result fun ⟨lines, h⟩ => ?_
    obtain ⟨s, loaded, -⟩ := outcome_result_eq_ok_iff.1 h
    cases refused.symm.trans loaded
  answered s lines loaded answer :=
    Outcome.prints_of_result (outcome_result_eq_ok_iff.2 ⟨s, loaded, answer⟩)
  unanswered s loaded noAnswer := by
    refine Outcome.fails_of_result fun ⟨lines, h⟩ => noAnswer ⟨lines, ?_⟩
    rwa [outcome_of_loaded loaded, perform_result_eq_ok_iff] at h
  overruled s version loaded given _ _ request' files' _ absent task loaded' diff := by
    refine Outcome.agree_of_result ?_
    -- either way the settings in force have the version of the command line
    rw [outcome_of_loaded loaded, outcome_of_loaded loaded', given, absent, task,
      performed_congr diff]
    rfl

/-- **The command line refines the library.** The request is the one that the words of the command
line ask for, with the settings file that they name or else the environment; they ask for no other.
It comes to the answer of the library. A version may be put in front of any command line that gives
none. -/
theorem outcome_refines {arguments : List String} {environment : Option String}
    (accepted : ofArguments arguments environment = .ok request)
    (files : String → Except FileError String) :
    request.Refines files ∧
    (∀ asked : Request, asked.IsSpelledBy arguments environment ↔ asked = request) ∧
    (request.serverVersion = none → ∀ version,
      ofArguments (("--server-version=" ++ version) :: arguments) environment =
        .ok { request with serverVersion := some version }) :=
  ⟨request.refines files, isSpelledBy_iff_eq accepted, ofArguments_serverVersion accepted⟩

/-- A diff that adds a text column. -/
def notesDiff : TableDiff where
  name := "T"
  added := [{ name := "notes", type := .text }]

/-- The statement that adds it on the oldest release. -/
def addNotes : Statement := .addColumn "T" ⟨"notes", "NTEXT", false, none, true⟩ none

/-- A diff, settings of two versions, the first one of no server, and settings with a connection. -/
def shelf : String → Except FileError String
  | "diff.json" => .ok ("\x7b\"name\":\"T\",\"added\":" ++
      "[\x7b\"name\":\"notes\",\"type\":\"text\"\x7d]\x7d")
  | "new.json" => .ok "\x7b\"server_version\":\"unknown\"\x7d"
  | "old.json" => .ok "\x7b\"server_version\":\"8.00.194\"\x7d"
  | "shop.json" => .ok ("\x7b\"connection\":" ++
      "\x7b\"host\":\"localhost\",\"dbname\":\"shop\"\x7d\x7d")
  | _ => .error (.system "No such file or directory" 2)

/-- The five commands. The version of the command line takes the place of one of no server, as does
that of a settings file which the environment names, and the host of the command line that of the
connection in the settings. -/
theorem outcome_refines_shelf :
    (∃ request request',
      ofArguments ["-c", "new.json", "-s", "8.00.194", "alter", "diff.json"] none = .ok request ∧
      ofArguments ["alter", "diff.json"] (some "old.json") = .ok request' ∧
      (request.outcome shelf).Prints ["ALTER TABLE [T] ADD [notes] NTEXT"] ∧
      (request'.outcome shelf).output = (request.outcome shelf).output ∧
      (request'.outcome shelf).exitCode = (request.outcome shelf).exitCode) ∧
    (∃ request : Request, request.IsSpelledBy ["constraint-name", "T", "A"] none ∧
      (request.outcome shelf).Prints ["DF_BE047A60_D3D99E8B"]) ∧
    (∃ request : Request, request.IsSpelledBy ["lock-hint", "-mpessimistic-write", "[T] t"] none ∧
      (request.outcome shelf).Prints ["[T] t WITH (UPDLOCK, ROWLOCK)"]) ∧
    (∃ request : Request,
      request.IsSpelledBy ["-c", "shop.json", "dsn", "--host", "db", "--port=1433"] none ∧
      (request.outcome shelf).Prints ["dblib:host=db:1433;dbname=shop"]) ∧
    ∃ request : Request, request.IsSpelledBy ["platform", "8.00.194"] none ∧
      (request.outcome shelf).Prints ["mssql"] := by
  have run {arguments : List String} {request : Request} {s : Settings} {lines lines' : List String}
      (accepted : ofArguments arguments none = .ok request) (loaded : request.loaded shelf = .ok s)
      (answer : Answers shelf (s.under request.serverVersion) request.task lines)
      (text : lines = lines') :
      request.IsSpelledBy arguments none ∧ (request.outcome shelf).Prints lines' :=
    ⟨((outcome_refines accepted shelf).2.1 _).2 rfl,
      text ▸ (outcome_refines accepted shelf).1.answered _ _ loaded answer⟩
  refine ⟨?_, ⟨⟨none, none, false, .constraintName "T" "A"⟩, ?_⟩,
    ⟨⟨none, none, false, .lockHint "[T] t" .pessimisticWrite⟩, ?_⟩,
    ⟨⟨some "shop.json", none, false, .dsn { host := some "db", port := some 1433 }⟩, ?_⟩,
    ⟨⟨none, none, false, .platform "8.00.194"⟩, ?_⟩⟩
  · have accepted : ofArguments ["-c", "new.json", "-s", "8.00.194", "alter", "diff.json"] none =
        .ok ⟨some "new.json", some "8.00.194", false, .alter "diff.json"⟩ := by decide +kernel
    have accepted' : ofArguments ["alter", "diff.json"] (some "old.json") =
        .ok ⟨some "old.json", none, false, .alter "diff.json"⟩ := by decide +kernel
    have loaded : Request.loaded ⟨some "new.json", some "8.00.194", false, .alter "diff.json"⟩
        shelf = .ok { serverVersion := some "unknown" } := by decide +kernel
    have answer : Answers shelf { serverVersion := some "8.00.194" } (.alter "diff.json")
        ([addNotes].map Statement.text) :=
      .alter rfl (by decide +kernel : TableDiff.ofText _ = .ok notesDiff) rfl (by decide +kernel)
    have text : [addNotes].map Statement.text = ["ALTER TABLE [T] ADD [notes] NTEXT"] := by
      decide +kernel
    have prints := (run accepted loaded answer text).2
    have refines := (outcome_refines accepted shelf).1
    exact ⟨_, _, accepted, accepted', prints, refines.overruled _ _ loaded rfl _ _ _ shelf accepted'
      rfl rfl (by decide +kernel) fun _ _ => rfl⟩
  · exact run (by decide +kernel) rfl (.constraintName "T" "A") (by decide +kernel)
  · exact run (by decide +kernel) rfl (.lockHint "[T] t" .pessimisticWrite rfl) (by decide +kernel)
  · have loaded : Request.loaded
        ⟨some "shop.json", none, false, .dsn { host := some "db", port := some 1433 }⟩ shelf =
        .ok { connection := some { host := some "localhost", dbname := some "shop" } } := by
      decide +kernel
    exact run (by decide +kernel) loaded (.dsn _ rfl) (by decide +kernel)
  · have parsed : Release.ofVersion "8.00.194" = .ok .sql2000 := by decide +kernel
    exact run (by decide +kernel) rfl (.platform parsed) rfl

end Request

end Command

end TsqlAlter
