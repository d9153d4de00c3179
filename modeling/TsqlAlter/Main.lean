import TsqlAlter.Command.Run

/-!
# The program

Reads the command line, runs the request, and prints what came of it.
-/

namespace TsqlAlter.Command

/--
The words for a failure of the operating system that readers of files meet. Some calls report the
number with a minus sign.
-/
def systemError (code : Nat) (details : String) : FileError :=
  match if code < 0x80000000 then code else 0x100000000 - code with
  | 2 => .absent
  | 13 => .system "Permission denied" code
  | 20 => .system "Not a directory" code
  | 21 => .directory
  | 36 => .system "File name too long" code
  | 40 => .system "Too many levels of symbolic links" code
  | code => .system details code

/-- The cause behind an error of the runtime. -/
def fileError : IO.Error → FileError
  | .noFileOrDirectory _ code details => systemError code.toNat details
  | .permissionDenied _ code details => systemError code.toNat details
  | .inappropriateType _ code details => systemError code.toNat details
  | .invalidArgument _ code details => systemError code.toNat details
  | .resourceExhausted _ code details => systemError code.toNat details
  | .unsatisfiedConstraints code details => systemError code.toNat details
  | .unsupportedOperation code details => systemError code.toNat details
  | .hardwareFault code details => systemError code.toNat details
  | .otherError code details => systemError code.toNat details
  | error => .system (toString error) 5

/-- The text of a file. -/
def readText (path : String) : IO (Except FileError String) := do
  try
    let content ← IO.FS.readBinFile path
    return match String.fromUTF8? content with
      | some text => .ok text
      | none => .error .notText
  catch error => return .error (fileError error)

/-- How the program is used. -/
def usage : List String := [
  "Usage: oxide-mssql-migrate [-c FILE] [-s VERSION] [-v] COMMAND",
  "",
  "Commands:",
  "  alter DIFF",
  "  constraint-name TABLE COLUMN",
  "  lock-hint [-m MODE] CLAUSE",
  "  dsn [--host HOST] [--port PORT] [--dbname NAME] [--charset CHARSET]",
  "  platform VERSION"]

end TsqlAlter.Command

open TsqlAlter.Command in
/-- Runs the program. -/
def main (arguments : List String) : IO UInt32 := do
  let environment ← IO.getEnv "OXIDE_MSSQL_CONFIG"
  match Request.ofArguments arguments environment with
  | .error .showVersion =>
    IO.println versionLine
    return 0
  | .error .showHelp =>
    usage.forM fun line => IO.println line
    return 0
  | .error (.usage _) =>
    usage.forM fun line => IO.eprintln line
    return 2
  | .ok request =>
    let outcome ← run readText request
    for line in outcome.log request.verbose do
      IO.eprintln line
    IO.print outcome.output
    if let .error failure := outcome.result then
      IO.eprintln failure.report
    return UInt32.ofNat outcome.exitCode
