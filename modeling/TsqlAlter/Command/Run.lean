import TsqlAlter.Command.Arguments
import TsqlAlter.Command.Note
import TsqlAlter.Diff.Json

/-!
# Running a request

Every request loads its settings first, so a settings file that cannot be read or understood fails
each command. A version given on the command line takes the place of that of the file. A run ends
with the lines to print, or fails without any.

Files are read through a function of the caller, in a monad of the caller. An outcome keeps apart
what is printed (`Outcome.output`), what is told on the way (`Outcome.log`) and the report on a
failure (`Failure.report`), each with its wording; writing them is left to the program.

Left out: that a file may change while a run reads it. The caller's monad decides what is read.
-/

namespace TsqlAlter.Command

/-- What the program says of its version. -/
def versionLine : String := "oxide-mssql-migrate 0.1.0"

/-- Why a run failed. -/
inductive Failure where
  /-- The settings cannot be loaded. -/
  | settings (path : String) (error : Error)
  /-- The file of the diff cannot be read. -/
  | unreadable (path : String) (error : FileError)
  /-- The file of the diff holds no diff. -/
  | notADiff (path : String) (error : Json.ReadError)
  | failed (error : Error)
deriving DecidableEq, Repr

namespace Failure

/-- What failed. -/
def message : Failure → String
  | settings path _ => "Failed to load config " ++ path
  | unreadable path _ => "Failed to read diff " ++ path
  | notADiff path _ => "Invalid table diff " ++ path
  | failed error => error.message

/-- What it came from, and what that came from. -/
def causes : Failure → List String
  | settings _ (.file error) => [(Error.file error).message, error.message]
  | settings _ (.json error) => [(Error.json error).message, error.message]
  | settings _ error => [error.message]
  | unreadable _ error => [error.message]
  | notADiff _ error => [error.message]
  | failed _ => []

/-- The causes as they are listed: several ones are numbered. -/
def numbered (causes : List String) : List String :=
  match causes with
  | [cause] => [cause]
  | causes => causes.mapIdx fun i cause => toString i ++ ": " ++ cause

/-- The report on a failure. -/
def report (f : Failure) : String :=
  "Error: " ++ f.message ++
    match numbered f.causes with
    | [] => ""
    | causes => "\n\nCaused by:" ++ String.join (causes.map fun cause => "\n    " ++ cause)

end Failure

/-- How a run ended: what it told, and its lines or its failure. -/
structure Outcome where
  notes : List Note
  result : Except Failure (List String)

namespace Outcome

/-- The exit code. -/
def exitCode (o : Outcome) : Nat :=
  match o.result with
  | .ok _ => 0
  | .error _ => 1

/-- What is printed: each line and a line end, and nothing after a failure. -/
def output (o : Outcome) : String :=
  match o.result with
  | .ok lines => String.join (lines.map (· ++ "\n"))
  | .error _ => ""

/-- What is told, in detail if that is wanted. -/
def log (o : Outcome) (verbose : Bool) : List String :=
  (o.notes.filter fun note => verbose || !note.isDetail).map Note.text

/-- The outcome after notes told before. -/
def after (o : Outcome) (notes : List Note) : Outcome := ⟨notes ++ o.notes, o.result⟩

/-- An outcome without notes. -/
def quiet (result : Except Error (List String)) : Outcome := ⟨[], result.mapError .failed⟩

end Outcome

/-- Tells which platform was selected, and goes on with it. -/
def onPlatform (settings : Settings) (next : Platform → Outcome) : Outcome :=
  match settings.platform with
  | .error e => ⟨[], .error (.failed e)⟩
  | .ok p => (next p).after [.selected p.dialect.name p.hints.size]

/-- Compiles a diff into lines. -/
def compile (diff : TableDiff) (p : Platform) : Outcome :=
  match p.compile diff with
  | .error e => ⟨p.compileNotes diff, .error (.failed e)⟩
  | .ok statements =>
    ⟨p.compileNotes diff ++ [.compiled diff.name statements.length],
      .ok (statements.map Statement.text)⟩

/-- Compiles the diff that a file holds. -/
def alter (settings : Settings) (path : String) (content : Except FileError String) : Outcome :=
  match content with
  | .error e => ⟨[], .error (.unreadable path e)⟩
  | .ok text =>
    match TableDiff.ofText text with
    | .error e => ⟨[], .error (.notADiff path e)⟩
    | .ok diff => onPlatform settings (compile diff)

/-- The settings in force, from the content of the settings file if there is one. -/
def effective (request : Request) (content : Option (Except FileError String)) :
    Except Error Settings := do
  let settings ← match content with
    | none => pure {}
    | some content => Settings.ofFile content
  return { settings with serverVersion := request.serverVersion.or settings.serverVersion }

/-- Runs a request with the settings in force. -/
def perform {m : Type → Type} [Monad m] (readFile : String → m (Except FileError String))
    (settings : Settings) : Task → m Outcome
  | .alter path => return alter settings path (← readFile path)
  | .constraintName table column =>
    return .quiet (.ok [Sql.constraintName table column])
  | .lockHint clause mode =>
    return onPlatform settings fun p => .quiet (.ok [p.appendHint clause mode])
  | .dsn connection =>
    return .quiet (.ok [(connection.orElse (settings.connection.getD {})).dsn .native])
  | .platform version => return .quiet ((Release.ofVersion version).map fun r => [r.name])

/-- Runs a request. -/
def run {m : Type → Type} [Monad m] (readFile : String → m (Except FileError String))
    (request : Request) : m Outcome := do
  match request.config with
  | none =>
    match effective request none with
    | .error e => return ⟨[], .error (.failed e)⟩
    | .ok settings => perform readFile settings request.task
  | some path =>
    match effective request (some (← readFile path)) with
    | .error e => return ⟨[.loadingSettings path], .error (.settings path e)⟩
    | .ok settings =>
      let outcome ← perform readFile settings request.task
      return outcome.after [.loadingSettings path]

end TsqlAlter.Command
