import TsqlAlter.Connection
import TsqlAlter.Plan.Platform

/-!
# Settings

The settings of a host: the version of its server, lock hints of its own, and the connection. Every
setting may be left out, and a setting of another name is refused. The hints of the settings stand
over the standard ones mode by mode, or take their place as a whole.

Left out: where the file of the settings is. A request names it, or the environment does.
-/

namespace TsqlAlter

/-- The settings of a host. -/
structure Settings where
  /-- The version of the server; the newest release is meant if absent. -/
  serverVersion : Option String := none
  hints : HintTable := .empty
  /-- The hints take the place of all standard ones, not only of those they name. -/
  replaceHints : Bool := false
  connection : Option Connection := none
deriving DecidableEq, Repr

namespace Settings

/-- The release of the server. -/
def release (s : Settings) : Except Error Release :=
  match s.serverVersion with
  | none => .ok .newest
  | some version => Release.ofVersion version

/-- The hint table in force. -/
def hintTable (s : Settings) : HintTable :=
  if s.replaceHints then s.hints else HintTable.standard.setAll s.hints.entries

/-- The platform the settings describe. -/
def platform (s : Settings) : Except Error Platform :=
  s.release.map fun r => { Platform.ofRelease r with hints := s.hintTable }

open Json

/-- Reads one setting. -/
def put (key : String) (t : Tree) (s : Settings) : Except ReadError Settings :=
  match key with
  | "server_version" => return { s with serverVersion := ← Decoder.string.option t }
  | "lock_hints" => return { s with hints := ← HintTable.decode t }
  | "replace_lock_hints" => return { s with replaceHints := ← Decoder.bool t }
  | "connection" => return { s with connection := ← Decoder.option Connection.decode t }
  | _ => return s

/-- How settings are read. -/
def format : Format Settings where
  title := "struct PlatformConfig"
  keys := ["server_version", "lock_hints", "replace_lock_hints", "connection"]
  required := []
  strict := true
  blank := {}
  put := put

/-- Reads settings. -/
def decode : Decoder Settings := format.decode

/-- The JSON form of settings. -/
def toJson (s : Settings) : Value :=
  .object [
    ("server_version", .option .string s.serverVersion),
    ("lock_hints", s.hints.toJson),
    ("replace_lock_hints", .bool s.replaceHints),
    ("connection", .option Connection.toJson s.connection)]

/-- The settings that a text describes. -/
def ofText (text : String) : Except Error Settings := (read decode text).mapError .json

/-- The settings that the content of a file describes. -/
def ofFile (content : Except FileError String) : Except Error Settings :=
  match content with
  | .error e => .error (.file e)
  | .ok text => ofText text

end Settings

end TsqlAlter
