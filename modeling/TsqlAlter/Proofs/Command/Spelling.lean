import Mathlib.Data.List.Forall2
import TsqlAlter.Command.Arguments

/-!
# How requests are spelled

The words of a command line as a grammar, apart from the reader of `Draft.read`. The arguments
before a command and those after it give items (`Gives`): the command, operands, options with their
values, and `--verbose`. Options belong to the program or to one of the commands (`Key.BelongsTo`),
and stand in its place only.

* The command is its word. It is given once, for behind it every other word is an operand.
* An operand is a plain argument, that is one that does not begin with a dash or is nothing else
  (`IsPlain`). Behind `--` every argument is an operand, but there is no command there.
* An option is `--name` before its value, which is a plain argument, or `--name=value`.
* Behind one dash stand letters (`Letters`): `v` before the command, any number of times, and then
  at most one option with a value. The value follows the letter, with the sign `=` between them or
  without it, or it is the next argument (`Awaits`).

The items ask for a task (`Asks`) if there is the one command with its operands in order, and for a
request (`Request.IsAskedBy`) with the settings file, the version and the verbosity among them. Each
option is given once at most: `--mode` is one of four words and `none` by default, and a port is a
number of sixteen bits (`IsPort`). A settings file that the environment names counts if the items
name none; its name is not empty, nor is the path of a diff.

Results:
* `lookup_all_eq_some_iff`, `lookup_modes_eq_some_iff`, `port?_eq_some_iff`: commands, lock modes
  and ports as the reader knows them.
* `lookup_long_eq_some_iff`, `lookup_short_eq_some_iff`, `lookup_long_eq_verbose_iff`,
  `lookup_short_eq_verbose_iff`: options by name and by letter.

Left out: `help`, `--help` and `--version`, which make no request, and what is said about a command
line that makes none.
-/

namespace TsqlAlter

/-- A lock mode as it is typed. -/
def LockMode.word : LockMode → String
  | none => "none"
  | pessimisticRead => "pessimistic-read"
  | pessimisticWrite => "pessimistic-write"
  | optimistic => "optimistic"

namespace Command

/-! ## Words -/

/-- A command as it is typed. -/
def Name.word : Name → String
  | alter => "alter"
  | constraintName => "constraint-name"
  | lockHint => "lock-hint"
  | dsn => "dsn"
  | platform => "platform"

namespace Key

/-- The long name of an option. -/
def word : Key → String
  | config => "config"
  | serverVersion => "server-version"
  | verbose => "verbose"
  | version => "version"
  | help => "help"
  | mode => "mode"
  | host => "host"
  | port => "port"
  | dbname => "dbname"
  | charset => "charset"

/-- The letter of an option with a value, if it has one. -/
def letter? : Key → Option Char
  | config => some 'c'
  | serverVersion => some 's'
  | mode => some 'm'
  | _ => none

/-- The option has a value and stands before the command, or after a command. -/
def BelongsTo : Option Name → Key → Prop
  | none, key => key = config ∨ key = serverVersion
  | some .lockHint, key => key = mode
  | some .dsn, key => key = host ∨ key = port ∨ key = dbname ∨ key = charset
  | some _, _ => False

end Key

/-- The text of a port: a numeral of sixteen bits, or zeros behind a minus sign. -/
def IsPort (text : String) (port : UInt16) : Prop :=
  Text.IsNumeral text.toList port.toNat ∨
    port = 0 ∧ ∃ zeros, text.toList = '-' :: zeros ∧ zeros ≠ [] ∧ ∀ c ∈ zeros, c = '0'

/-! ## The grammar -/

/-- What a command line gives. -/
inductive Item where
  | command (name : Name)
  | operand (text : String)
  /-- An option with its value. -/
  | value (key : Key) (text : String)
  | verbose
deriving DecidableEq

namespace Item

/-- The commands among items. -/
def commands (items : List Item) : List Name :=
  items.filterMap fun | command name => some name | _ => none

/-- The operands among items, in their order. -/
def operands (items : List Item) : List String :=
  items.filterMap fun | operand text => some text | _ => none

/-- The values of an option among items. -/
def values (key : Key) (items : List Item) : List String :=
  items.filterMap fun | value k text => if k = key then some text else none | _ => none

end Item

/-- A text that may stand alone as a value or an operand: it does not begin with a dash, or is
nothing else. -/
def IsPlain (text : String) : Prop := text.toList.head? = some '-' → text = "-"

instance (text : String) : Decidable (IsPlain text) :=
  inferInstanceAs (Decidable (text.toList.head? = some '-' → text = "-"))

/-- Short options run together, which give the items. -/
inductive Letters (scope : Option Name) : List Char → List Item → Prop where
  | done : Letters scope [] []
  | verbose {letters : List Char} {items : List Item} (first : scope = none)
      (rest : Letters scope letters items) : Letters scope ('v' :: letters) (.verbose :: items)
  | value {key : Key} {letter : Char} {text : List Char} (belongs : key.BelongsTo scope)
      (lettered : key.letter? = some letter) (nonempty : text ≠ [])
      (unmarked : text.head? ≠ some '=') :
      Letters scope (letter :: text) [.value key (String.ofList text)]
  | marked {key : Key} {letter : Char} {text : List Char} (belongs : key.BelongsTo scope)
      (lettered : key.letter? = some letter) :
      Letters scope (letter :: '=' :: text) [.value key (String.ofList text)]

/-- Short options run together, the last of which waits for its value. -/
inductive Awaits (scope : Option Name) : List Char → List Item → Key → Prop where
  | last {key : Key} {letter : Char} (belongs : key.BelongsTo scope)
      (lettered : key.letter? = some letter) : Awaits scope [letter] [] key
  | verbose {letters : List Char} {items : List Item} {key : Key} (first : scope = none)
      (rest : Awaits scope letters items key) :
      Awaits scope ('v' :: letters) (.verbose :: items) key

/-- Arguments before a command, or after it, that give the items. -/
inductive Gives : Option Name → List String → List Item → Prop where
  | done {scope : Option Name} : Gives scope [] []
  | command (name : Name) {arguments : List String} {items : List Item}
      (rest : Gives (some name) arguments items) :
      Gives none (name.word :: arguments) (.command name :: items)
  | operand {name : Name} {text : String} {arguments : List String} {items : List Item}
      (plain : IsPlain text) (rest : Gives (some name) arguments items) :
      Gives (some name) (text :: arguments) (.operand text :: items)
  /-- After two dashes every argument is an operand. -/
  | operands {name : Name} (texts : List String) :
      Gives (some name) ("--" :: texts) (texts.map .operand)
  | verbose {arguments : List String} {items : List Item} (rest : Gives none arguments items) :
      Gives none ("--verbose" :: arguments) (.verbose :: items)
  | value {scope : Option Name} {key : Key} {text : String} {arguments : List String}
      {items : List Item} (belongs : key.BelongsTo scope) (plain : IsPlain text)
      (rest : Gives scope arguments items) :
      Gives scope (("--" ++ key.word) :: text :: arguments) (.value key text :: items)
  | marked {scope : Option Name} {key : Key} {text : String} {arguments : List String}
      {items : List Item} (belongs : key.BelongsTo scope) (rest : Gives scope arguments items) :
      Gives scope (("--" ++ key.word ++ "=" ++ text) :: arguments) (.value key text :: items)
  | letters {scope : Option Name} {letters : List Char} {given : List Item}
      {arguments : List String} {items : List Item} (nonempty : letters ≠ [])
      (read : Letters scope letters given) (rest : Gives scope arguments items) :
      Gives scope (String.ofList ('-' :: letters) :: arguments) (given ++ items)
  | awaiting {scope : Option Name} {letters : List Char} {given : List Item} {key : Key}
      {text : String} {arguments : List String} {items : List Item}
      (read : Awaits scope letters given key) (plain : IsPlain text)
      (rest : Gives scope arguments items) :
      Gives scope (String.ofList ('-' :: letters) :: text :: arguments)
        (given ++ .value key text :: items)

/-- The items ask for a task. -/
inductive Asks (items : List Item) : Task → Prop where
  | alter {path : String} (command : Item.commands items = [.alter])
      (operands : Item.operands items = [path]) (named : path ≠ "") : Asks items (.alter path)
  | constraintName {table column : String} (command : Item.commands items = [.constraintName])
      (operands : Item.operands items = [table, column]) :
      Asks items (.constraintName table column)
  | lockHint {clause : String} {mode : LockMode} (command : Item.commands items = [.lockHint])
      (operands : Item.operands items = [clause])
      (given : Item.values .mode items = [mode.word] ∨
        Item.values .mode items = [] ∧ mode = .none) : Asks items (.lockHint clause mode)
  | dsn {connection : Connection} (command : Item.commands items = [.dsn])
      (operands : Item.operands items = [])
      (host : Item.values .host items = connection.host.toList)
      (port : List.Forall₂ IsPort (Item.values .port items) connection.port.toList)
      (dbname : Item.values .dbname items = connection.dbname.toList)
      (charset : Item.values .charset items = connection.charset.toList) :
      Asks items (.dsn connection)
  | platform {version : String} (command : Item.commands items = [.platform])
      (operands : Item.operands items = [version]) : Asks items (.platform version)

/-- The request is what the items ask for, in an environment that may name a settings file. -/
structure Request.IsAskedBy (request : Request) (items : List Item) (environment : Option String) :
    Prop where
  config : (∃ path, path ≠ "" ∧ Item.values .config items = [path] ∧ request.config = some path) ∨
    Item.values .config items = [] ∧ request.config = environment ∧ environment ≠ some ""
  serverVersion : Item.values .serverVersion items = request.serverVersion.toList
  verbose : items.count .verbose = request.verbose.toNat
  task : Asks items request.task

/-- The arguments spell the request. -/
def Request.IsSpelledBy (request : Request) (arguments : List String)
    (environment : Option String) : Prop :=
  ∃ items, Gives none arguments items ∧ request.IsAskedBy items environment

/-! ## Tables -/

variable {scope : Option Name} {key : Key} {word : String} {c : Char}

theorem lookup_eq_some_iff_mem {α β : Type} [BEq α] [LawfulBEq α] {table : List (α × β)} {a : α}
    {b : β} (distinct : (table.map Prod.fst).Nodup) :
    table.lookup a = some b ↔ (a, b) ∈ table := by
  induction table with
  | nil => simp
  | cons entry more ih =>
    obtain ⟨fresh, distinct⟩ := List.nodup_cons.1 distinct
    rw [List.lookup_cons, List.mem_cons]
    by_cases same : a = entry.1
    · subst same
      have absent : (entry.1, b) ∉ more := fun h => fresh (List.mem_map.2 ⟨_, h, rfl⟩)
      simp [absent, Prod.ext_iff, eq_comm]
    · simp [beq_false_of_ne same, same, ih distinct, Prod.ext_iff]

theorem lookup_all_eq_some_iff {name : Name} :
    Name.all.lookup word = some name ↔ word = name.word := by
  rw [lookup_eq_some_iff_mem (by decide)]
  cases name <;> simp [Name.all, Name.word]

theorem lookup_modes_eq_some_iff {mode : LockMode} :
    modes.lookup word = some mode ↔ word = mode.word := by
  rw [lookup_eq_some_iff_mem (by decide)]
  cases mode <;> simp [modes, LockMode.word]

/-- **Which texts are ports.** -/
theorem port?_eq_some_iff {text : String} {port : UInt16} :
    (∃ n, port? text.toList = some n ∧ UInt16.ofNat n = port) ↔ IsPort text port := by
  unfold port? IsPort
  split
  · next digits spelled =>
    rw [spelled]
    constructor
    · rintro ⟨n, h, rfl⟩
      obtain ⟨read, zero⟩ := Option.filter_eq_some_iff.1 h
      obtain ⟨ne, all, value⟩ := (Text.natural?_eq_some_iff digits n).1 read
      have zero : n = 0 := by simpa using zero
      subst zero
      exact .inr ⟨rfl, digits, rfl, ne, (Text.value_eq_zero_iff all).1 value⟩
    · rintro (numeral | ⟨rfl, zeros, same, ne, all⟩)
      · exact absurd (numeral.mem List.mem_cons_self) (by decide)
      · cases same
        have digit : ∀ c ∈ digits, c.isDigit = true := fun c hc => by rw [all c hc]; rfl
        refine ⟨0, Option.filter_eq_some_iff.2 ⟨?_, rfl⟩, rfl⟩
        exact (Text.natural?_eq_some_iff digits 0).2
          ⟨ne, digit, (Text.value_eq_zero_iff digit).2 all⟩
  · next undashed =>
    constructor
    · rintro ⟨n, h, rfl⟩
      obtain ⟨numeral, bound⟩ := Text.unsigned?_eq_some_iff.1 h
      refine .inl ?_
      rwa [UInt16.toNat_ofNat_of_lt' bound]
    · rintro (numeral | ⟨-, zeros, same, -⟩)
      · exact ⟨port.toNat, Text.unsigned?_eq_some_iff.2 ⟨numeral, port.toNat_lt⟩, by simp⟩
      · exact absurd same (undashed zeros)

theorem nodup_long (scope : Option Name) : ((Key.long scope).map Prod.fst).Nodup := by
  rcases scope with _ | name
  · decide
  · cases name <;> decide

theorem nodup_short (scope : Option Name) : ((Key.short scope).map Prod.fst).Nodup := by
  rcases scope with _ | name
  · decide
  · cases name <;> decide

theorem Key.BelongsTo.takesValue (h : key.BelongsTo scope) : key.takesValue = true := by
  rcases scope with _ | _ | _ | _ | _ | _ <;> cases key <;>
    simp [Key.BelongsTo] at h <;> rfl

theorem lookup_long_eq_some_iff :
    (Key.long scope).lookup word = some key ∧ key.takesValue = true ↔
      key.BelongsTo scope ∧ word = key.word := by
  rw [lookup_eq_some_iff_mem (nodup_long scope)]
  rcases scope with _ | _ | _ | _ | _ | _ <;> cases key <;>
    simp [Key.takesValue, Key.long, Key.BelongsTo, Key.word]

theorem lookup_short_eq_some_iff :
    (Key.short scope).lookup c = some key ∧ key.takesValue = true ↔
      key.BelongsTo scope ∧ key.letter? = some c := by
  rw [lookup_eq_some_iff_mem (nodup_short scope)]
  rcases scope with _ | _ | _ | _ | _ | _ <;> cases key <;>
    simp [Key.takesValue, Key.short, Key.BelongsTo, Key.letter?, eq_comm]

theorem lookup_long_eq_verbose_iff :
    (Key.long scope).lookup word = some .verbose ↔ scope = none ∧ word = "verbose" := by
  rw [lookup_eq_some_iff_mem (nodup_long scope)]
  rcases scope with _ | _ | _ | _ | _ | _ <;> simp [Key.long]

theorem lookup_short_eq_verbose_iff :
    (Key.short scope).lookup c = some .verbose ↔ scope = none ∧ c = 'v' := by
  rw [lookup_eq_some_iff_mem (nodup_short scope)]
  rcases scope with _ | _ | _ | _ | _ | _ <;> simp [Key.short]

end Command

end TsqlAlter
