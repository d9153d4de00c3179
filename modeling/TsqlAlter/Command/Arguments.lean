import TsqlAlter.Settings

/-!
# Command lines

A command line is read argument by argument into a draft of the request, and the first argument out
of place ends the reading.

* Options of the program stand before the command, options of a command after it. An option is
  given at most once.
* `--name value` and `--name=value` mean the same, as do `-n value`, `-nvalue` and `-n=value`. Short
  options without value may be run together.
* A value in an argument of its own, or an operand, does not begin with `-`, unless it is `-` alone.
  After `--` every argument is an operand.
* In place of a command, `help` shows help, on the one command that may be named after it.

Left out: the text of the help. A request for it ends with the usage lines alone.
-/

namespace TsqlAlter.Command

/-- The commands of the program. -/
inductive Name where
  | alter
  | constraintName
  | lockHint
  | dsn
  | platform
deriving DecidableEq, Repr

/-- The options of the program and of its commands. -/
inductive Key where
  | config
  | serverVersion
  | verbose
  | version
  | help
  | mode
  | host
  | port
  | dbname
  | charset
deriving DecidableEq, Repr

/-- Why a command line is refused. -/
inductive UsageError where
  | unexpected (argument : String)
  | missingValue (key : Key)
  | repeated (key : Key)
  | invalidValue (key : Key) (value : String)
  | missingOperand
  | missingCommand
deriving DecidableEq, Repr

/-- What ends the reading of a command line early. -/
inductive Stop where
  | usage (error : UsageError)
  | showVersion
  | showHelp
deriving DecidableEq, Repr

namespace Name

/-- The commands as they are typed. -/
def all : List (String × Name) := [
  ("alter", alter),
  ("constraint-name", constraintName),
  ("lock-hint", lockHint),
  ("dsn", dsn),
  ("platform", platform)]

/-- The number of operands of a command. -/
def operands : Name → Nat
  | alter => 1
  | constraintName => 2
  | lockHint => 1
  | dsn => 0
  | platform => 1

end Name

namespace Key

/-- The option takes a value. -/
def takesValue : Key → Bool
  | verbose => false
  | version => false
  | help => false
  | _ => true

/-- The options by name, before a command or after it. -/
def long : Option Name → List (String × Key)
  | none => [("config", config), ("server-version", serverVersion), ("verbose", verbose),
      ("version", version), ("help", help)]
  | some .lockHint => [("mode", mode), ("help", help)]
  | some .dsn => [("host", host), ("port", port), ("dbname", dbname), ("charset", charset),
      ("help", help)]
  | some _ => [("help", help)]

/-- The options by letter, before a command or after it. -/
def short : Option Name → List (Char × Key)
  | none => [('c', config), ('s', serverVersion), ('v', verbose), ('V', version), ('h', help)]
  | some .lockHint => [('m', mode), ('h', help)]
  | some _ => [('h', help)]

end Key

/-- The lock modes as they are typed. -/
def modes : List (String × LockMode) := [
  ("none", .none),
  ("pessimistic-read", .pessimisticRead),
  ("pessimistic-write", .pessimisticWrite),
  ("optimistic", .optimistic)]

/-- A port: a numeral with any sign, of a number of sixteen bits. -/
def port? (s : List Char) : Option Nat :=
  match s with
  | '-' :: digits => (Text.natural? digits).filter (· = 0)
  | s => Text.unsigned? UInt16.size s

/-- The request as far as it is read. -/
structure Draft where
  config : Option String := none
  serverVersion : Option String := none
  verbose : Bool := false
  command : Option Name := none
  /-- The operands in the order given. -/
  operands : List String := []
  mode : Option LockMode := none
  connection : Connection := {}
  /-- The option that waits for its value. -/
  waiting : Option Key := none
  /-- Only operands follow. -/
  literal : Bool := false
  /-- Help is asked for, and then the command it is about, if one is named. -/
  help : Option (Option String) := none
deriving DecidableEq, Repr

namespace Draft

/-- Refuses the command line. -/
def refuse {α : Type} (error : UsageError) : Except Stop α := .error (.usage error)

/-- Gives an option its value, unless it has one. -/
def give {α β : Type} (key : Key) (old : Option α) (value : β) : Except Stop β :=
  if old.isSome then refuse (.repeated key) else .ok value

/-- Takes the value of an option. -/
def accept (d : Draft) (key : Key) (value : String) : Except Stop Draft :=
  match key with
  | .config =>
    if value.isEmpty then refuse (.invalidValue key value)
    else give key d.config { d with config := some value }
  | .serverVersion => give key d.serverVersion { d with serverVersion := some value }
  | .mode =>
    match modes.lookup value with
    | some mode => give key d.mode { d with mode := some mode }
    | none => refuse (.invalidValue key value)
  | .host => give key d.connection.host { d with connection.host := some value }
  | .port =>
    match port? value.toList with
    | some n => give key d.connection.port { d with connection.port := some (UInt16.ofNat n) }
    | none => refuse (.invalidValue key value)
  | .dbname => give key d.connection.dbname { d with connection.dbname := some value }
  | .charset => give key d.connection.charset { d with connection.charset := some value }
  | _ => refuse (.invalidValue key value)

/-- Takes an option without value. -/
def raise (d : Draft) (key : Key) : Except Stop Draft :=
  match key with
  | .verbose => if d.verbose then refuse (.repeated key) else .ok { d with verbose := true }
  | .version => .error .showVersion
  | .help => .error .showHelp
  | key => refuse (.missingValue key)

/-- Takes a named option, with a value behind `=` if there is one. -/
def named (d : Draft) (name : String) (value : Option String) : Except Stop Draft :=
  match (Key.long d.command).lookup name, value with
  | none, _ => refuse (.unexpected ("--" ++ name))
  | some key, some value => d.accept key value
  | some key, none =>
    if key.takesValue then .ok { d with waiting := some key } else d.raise key

/-- Takes short options run together; the first one with a value takes the rest as its value. -/
def letters (d : Draft) : List Char → Except Stop Draft
  | [] => .ok d
  | c :: rest =>
    match (Key.short d.command).lookup c with
    | none => refuse (.unexpected ("-" ++ c.toString))
    | some key =>
      if key.takesValue then
        match rest with
        | [] => .ok { d with waiting := some key }
        | '=' :: value => d.accept key (String.ofList value)
        | value => d.accept key (String.ofList value)
      else do
        let d ← d.raise key
        d.letters rest

/-- Takes an operand; before a command, the command. -/
def operand (d : Draft) (argument : String) : Except Stop Draft :=
  match d.command with
  | none =>
    if d.literal then refuse (.unexpected argument)
    else if argument = "help" then .ok { d with help := some none }
    else match Name.all.lookup argument with
      | some name => .ok { d with command := some name }
      | none => refuse (.unexpected argument)
  | some name =>
    if name.operands ≤ d.operands.length then refuse (.unexpected argument)
    else if name = .alter ∧ argument = "" then refuse (.unexpected argument)
    else .ok { d with operands := d.operands ++ [argument] }

/-- Begins with `-` and is not `-` alone. -/
def isDashed (argument : String) : Bool :=
  match argument.toList with
  | '-' :: _ :: _ => true
  | _ => false

/-- Takes the command that help is about. -/
def topic (d : Draft) (argument : String) : Except Stop Draft :=
  if argument = "help" ∨ (Name.all.lookup argument).isSome then
    .ok { d with help := some (some argument) }
  else refuse (.unexpected argument)

/-- Takes one argument. -/
def step (d : Draft) (argument : String) : Except Stop Draft :=
  if d.help = some none then d.topic argument
  else if d.help.isSome then refuse (.unexpected argument)
  else if d.literal then d.operand argument
  else match d.waiting with
    | some key =>
      if isDashed argument then refuse (.missingValue key)
      else { d with waiting := none }.accept key argument
    | none =>
      match argument.toList with
      | ['-', '-'] => .ok { d with literal := true }
      | '-' :: '-' :: option =>
        d.named (String.ofList (option.takeWhile (· != '=')))
          (match option.dropWhile (· != '=') with
            | [] => none
            | _ :: value => some (String.ofList value))
      | '-' :: c :: more => d.letters (c :: more)
      | _ => d.operand argument

/-- Takes arguments one after the other. -/
def read (d : Draft) (arguments : List String) : Except Stop Draft := arguments.foldlM step d

end Draft

/-- What a command has to do. -/
inductive Task where
  | alter (diff : String)
  | constraintName (table column : String)
  | lockHint (clause : String) (mode : LockMode)
  | dsn (connection : Connection)
  | platform (version : String)
deriving DecidableEq, Repr

/-- A complete request. -/
structure Request where
  config : Option String
  serverVersion : Option String
  verbose : Bool
  task : Task
deriving DecidableEq, Repr

namespace Draft

/-- The task of a command with its operands. -/
def task (d : Draft) : Except Stop Task :=
  match d.command, d.operands with
  | none, _ => refuse .missingCommand
  | some .alter, [diff] => .ok (.alter diff)
  | some .constraintName, [table, column] => .ok (.constraintName table column)
  | some .lockHint, [clause] => .ok (.lockHint clause (d.mode.getD .none))
  | some .dsn, [] => .ok (.dsn d.connection)
  | some .platform, [version] => .ok (.platform version)
  | some _, _ => refuse .missingOperand

/-- The request, with the settings file of the environment if none is given. -/
def finish (d : Draft) (environment : Option String) : Except Stop Request := do
  if let some key := d.waiting then refuse (.missingValue key)
  let task ← d.task
  let d ← match d.config, environment with
    | none, some path => d.accept .config path
    | _, _ => pure d
  return ⟨d.config, d.serverVersion, d.verbose, task⟩

end Draft

/-- The request of a command line and of the settings file that the environment names. -/
def Request.ofArguments (arguments : List String) (environment : Option String) :
    Except Stop Request := do
  let d ← Draft.read {} arguments
  if d.help.isSome then throw .showHelp
  d.finish environment

end TsqlAlter.Command
