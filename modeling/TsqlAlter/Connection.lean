import TsqlAlter.Json.Decode
import TsqlAlter.Json.Value

/-!
# Connections

The parameters of a connection, the data source name (DSN) made of them, and the session settings
that follow every connect. What stands between host and port depends on the client library, so a DSN
is written for a given separator.

Left out: opening a connection, and who opens it.
-/

namespace TsqlAlter

/-- Connection parameters. Port 0 means the driver's own, as no port does. -/
structure Connection where
  host : Option String := none
  port : Option UInt16 := none
  dbname : Option String := none
  charset : Option String := none
deriving DecidableEq, Repr

/-- What stands between host and port. -/
inductive PortSeparator where
  | comma
  | colon
deriving DecidableEq, Repr

/-- The character of a separator. -/
def PortSeparator.char : PortSeparator → Char
  | comma => ','
  | colon => ':'

/-- The separator of the client library that the program is built for: the colon everywhere but on
Windows, whose client library takes the comma. A build for Windows differs here and nowhere else. -/
def PortSeparator.native : PortSeparator := colon

namespace Connection

/-- A further item of a DSN. -/
def item (key : String) : Option String → String
  | none => ""
  | some value => ";" ++ key ++ "=" ++ value

/-- The port behind its separator. -/
def portText (separator : PortSeparator) : Option UInt16 → String
  | none => ""
  | some port => if port = 0 then "" else separator.char.toString ++ toString port.toNat

/-- The DSN of a connection. -/
def dsn (c : Connection) (separator : PortSeparator) : String :=
  "dblib:host=" ++ c.host.getD "" ++ portText separator c.port ++ item "dbname" c.dbname ++
    item "charset" c.charset

/-- The settings that make a session behave like one of the native client. -/
def sessionSettings : List String := [
  "SET ANSI_WARNINGS ON",
  "SET ANSI_PADDING ON",
  "SET ANSI_NULLS ON",
  "SET QUOTED_IDENTIFIER ON",
  "SET CONCAT_NULL_YIELDS_NULL ON"]

/-- The connection with parameters of another where it has none. -/
def orElse (c other : Connection) : Connection where
  host := c.host.or other.host
  port := c.port.or other.port
  dbname := c.dbname.or other.dbname
  charset := c.charset.or other.charset

open Json

/-- Reads one connection parameter. -/
def put (key : String) (t : Tree) (c : Connection) : Except ReadError Connection :=
  match key with
  | "host" => return { c with host := ← Decoder.string.option t }
  | "port" => return { c with port := ← Decoder.uint16.option t }
  | "dbname" => return { c with dbname := ← Decoder.string.option t }
  | "charset" => return { c with charset := ← Decoder.string.option t }
  | _ => return c

/-- How connection parameters are read. -/
def format : Format Connection where
  title := "struct DsnParams"
  keys := ["host", "port", "dbname", "charset"]
  required := []
  strict := false
  blank := {}
  put := put

/-- Reads connection parameters. -/
def decode : Decoder Connection := format.decode

/-- The JSON form of connection parameters. -/
def toJson (c : Connection) : Value :=
  .object [
    ("host", .option .string c.host),
    ("port", .option (fun port => .nat port.toNat) c.port),
    ("dbname", .option .string c.dbname),
    ("charset", .option .string c.charset)]

/-- The connection parameters that a text describes. -/
def ofText (text : String) : Except ReadError Connection := read decode text

end Connection

end TsqlAlter
