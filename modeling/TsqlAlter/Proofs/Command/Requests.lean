import TsqlAlter.Proofs.Command.Reading

/-!
# Which command lines are accepted

A command line is accepted exactly when the request is spelled by it (`Request.IsSpelledBy`): its
arguments give items, and the items ask for the task of the request, with the settings file, the
version and the verbosity that they name. A settings file that the environment names counts where
the command line names none. So a command line spells one request at most, and which one that is can
be read off its words.

Results:
* `Draft.finish_eq_ok_iff`, `Request.ofArguments_eq_ok_iff`: which drafts are finished, and that a
  request is a finished draft.
* `Request.ofArguments_eq_ok_iff_isSpelledBy`: acceptance, both directions.
* `Request.isSpelledBy_iff_eq`: an accepted command line spells its request and no other one.
* `Request.ofArguments_serverVersion`: a version in front of a command line without one is the only
  thing it changes, for it is one item more.
-/

namespace TsqlAlter.Command

variable {d d' : Draft} {items : List Item} {arguments : List String} {environment : Option String}
  {request : Request} {task : Task}

/-! ## Finished drafts -/

namespace Draft

/-- A draft is finished exactly when it waits for nothing, has all operands of its command, and
takes its settings file from the command line or else from an environment that names one. -/
theorem finish_eq_ok_iff :
    d.finish environment = .ok request ↔
      d.waiting = none ∧ (d.config = none → environment ≠ some "") ∧
        ∃ task, d.task = .ok task ∧
          ⟨d.config.or environment, d.serverVersion, d.verbose, task⟩ = request := by
  unfold finish
  cases hw : d.waiting with
  | some key => simp [refuse, bind, Except.bind]
  | none =>
    cases ht : d.task with
    | error e => simp [bind, Except.bind]
    | ok task =>
      cases hc : d.config with
      | some path => simp [bind, Except.bind, pure, Except.pure, hc]
      | none =>
        cases environment with
        | none => simp [bind, Except.bind, pure, Except.pure, hc]
        | some path =>
          by_cases empty : path = ""
          · simp [bind, Except.bind, accept, refuse, empty]
          · simp [bind, Except.bind, pure, Except.pure, hc, accept, give, empty]

/-- A complete draft has as many operands as its command. -/
theorem length_operands (complete : d.task = .ok task) {name : Name}
    (named : d.command = some name) : d.operands.length = name.operands := by
  unfold Draft.task at complete
  rw [named] at complete
  split at complete <;> simp_all [Name.operands, refuse]

/-- A draft from which nothing leads to another one makes the same request. -/
theorem Leads.finish_eq_ok_iff (same : d.Leads [] d') (waiting : d.waiting = none)
    (done : d'.waiting = none) :
    d.finish environment = .ok request ↔ d'.finish environment = .ok request := by
  have command : d.command = d'.command := by
    have total := same.command
    cases h : d.command <;> cases h' : d'.command <;> simp_all
  have operands : d.operands = d'.operands := (List.append_nil _).symm.trans same.operands
  have verbose : d.verbose = d'.verbose := by
    have total := same.verbose
    cases h : d.verbose <;> cases h' : d'.verbose <;> simp_all
  have connection : d.connection = d'.connection := by
    have host := fills_nil_iff.1 same.host
    have port := fills_nil_iff.1 same.port
    have dbname := fills_nil_iff.1 same.dbname
    have charset := fills_nil_iff.1 same.charset
    cases h : d.connection
    cases h' : d'.connection
    simp_all
  have task : d.task = d'.task := by
    unfold Draft.task
    rw [command, operands, fills_nil_iff.1 same.mode, connection]
  rw [Draft.finish_eq_ok_iff, Draft.finish_eq_ok_iff, waiting, done, task, verbose,
    fills_nil_iff.1 same.config, fills_nil_iff.1 same.serverVersion]

end Draft

/-! ## Tasks -/

/-- The items that led to the draft ask for its task. -/
theorem asks_of_leads (leads : ({} : Draft).Leads items d) (complete : d.task = .ok task) :
    Asks items task := by
  have command {name : Name} (named : d.command = some name) : Item.commands items = [name] :=
    leads.command.trans (congrArg Option.toList named)
  have operands {texts : List String} (given : d.operands = texts) :
      Item.operands items = texts := leads.operands.trans given
  unfold Draft.task at complete
  split at complete
  · cases complete
  · next named given =>
    cases complete
    refine .alter (command named) (operands given) fun empty => leads.present named ?_
    rw [operands given, empty]
    exact List.mem_singleton_self _
  · next named given =>
    cases complete
    exact .constraintName (command named) (operands given)
  · next named given =>
    cases complete
    refine .lockHint (command named) (operands given) ?_
    have modes := fills_none_iff.1 leads.mode
    cases mode : d.mode with
    | none =>
      rw [mode] at modes
      exact .inr ⟨List.forall₂_nil_right_iff.1 modes, rfl⟩
    | some m =>
      rw [mode] at modes
      obtain ⟨text, rest, word, none, values⟩ := List.forall₂_cons_right_iff.1 modes
      rw [List.forall₂_nil_right_iff.1 none] at values
      exact .inl (word ▸ values)
  · next named given =>
    cases complete
    exact .dsn (command named) (operands given) (fills_eq_none_iff.1 leads.host)
      (fills_none_iff.1 leads.port) (fills_eq_none_iff.1 leads.dbname)
      (fills_eq_none_iff.1 leads.charset)
  · next named given =>
    cases complete
    exact .platform (command named) (operands given)
  · cases complete

section

variable {config serverVersion : Option String} {verbose : Bool} {name : Name}
  {operands : List String}

/-- Every option among the items belongs to the program or to the command. -/
def Item.Scoped (items : List Item) : Prop :=
  ∀ key : Key, ¬key.BelongsTo none →
    (∀ name ∈ Item.commands items, ¬key.BelongsTo (some name)) → Item.values key items = []

theorem Item.Scoped.fills {α : Type} {R : String → α → Prop} (own : Item.Scoped items)
    (command : Item.commands items = [name]) (key : Key) (foreign : ¬key.BelongsTo none)
    (alien : ¬key.BelongsTo (some name)) : Fills R none (Item.values key items) none := by
  rw [own key foreign (by simp [command, alien])]
  exact fills_nil_iff.2 rfl

variable (own : Item.Scoped items)
  (config_filled : Fills (fun text path => text = path ∧ path ≠ "") none
    (Item.values .config items) config)
  (version_filled : Fills Eq none (Item.values .serverVersion items) serverVersion)
  (raised : false.toNat + items.count .verbose = verbose.toNat)
include own config_filled version_filled raised

/-- The draft of a command that has no options of its own. -/
theorem leads_bare (command : Item.commands items = [name])
    (given : Item.operands items = operands) (present : name = .alter → "" ∉ operands)
    (without : ∀ key : Key, ¬key.BelongsTo (some name)) : ({} : Draft).Leads items
      { config, serverVersion, verbose, command := some name, operands } where
  command := command
  operands := given
  present alter := given ▸ present (Option.some.inj alter)
  verbose := raised
  config := config_filled
  serverVersion := version_filled
  mode := own.fills command .mode (by simp [Key.BelongsTo]) (without _)
  host := own.fills command .host (by simp [Key.BelongsTo]) (without _)
  port := own.fills command .port (by simp [Key.BelongsTo]) (without _)
  dbname := own.fills command .dbname (by simp [Key.BelongsTo]) (without _)
  charset := own.fills command .charset (by simp [Key.BelongsTo]) (without _)

theorem leads_lockHint (mode : Option LockMode) (command : Item.commands items = [.lockHint])
    (given : Item.operands items = operands)
    (filled : Fills (fun text mode => text = mode.word) none (Item.values .mode items) mode) :
    ({} : Draft).Leads items
      { config, serverVersion, verbose, command := some .lockHint, operands, mode } where
  command := command
  operands := given
  present := nofun
  verbose := raised
  config := config_filled
  serverVersion := version_filled
  mode := filled
  host := own.fills command .host (by simp [Key.BelongsTo]) (by simp [Key.BelongsTo])
  port := own.fills command .port (by simp [Key.BelongsTo]) (by simp [Key.BelongsTo])
  dbname := own.fills command .dbname (by simp [Key.BelongsTo]) (by simp [Key.BelongsTo])
  charset := own.fills command .charset (by simp [Key.BelongsTo]) (by simp [Key.BelongsTo])

/-- Items that ask for a task lead to a draft of it, if their options belong to their command. -/
theorem exists_leads (asks : Asks items task) :
    ∃ d : Draft, ({} : Draft).Leads items d ∧ d.waiting = none ∧ d.config = config ∧
      d.serverVersion = serverVersion ∧ d.verbose = verbose ∧ d.task = .ok task := by
  cases asks with
  | alter command operands named =>
    exact ⟨_, leads_bare own config_filled version_filled raised command operands
      (fun _ => by simpa [eq_comm] using named) fun _ => id, rfl, rfl, rfl, rfl, rfl⟩
  | constraintName command operands =>
    exact ⟨_, leads_bare own config_filled version_filled raised command operands nofun fun _ => id,
      rfl, rfl, rfl, rfl, rfl⟩
  | platform command operands =>
    exact ⟨_, leads_bare own config_filled version_filled raised command operands nofun fun _ => id,
      rfl, rfl, rfl, rfl, rfl⟩
  | @lockHint clause mode command operands given =>
    have leads := fun mode =>
      leads_lockHint own config_filled version_filled raised mode command operands
    obtain values | ⟨values, rfl⟩ := given
    · have filled := leads (some mode) (fills_none_iff.2 (values ▸ .cons rfl .nil))
      exact ⟨_, filled, rfl, rfl, rfl, rfl, rfl⟩
    · have filled := leads none (fills_none_iff.2 (values ▸ .nil))
      exact ⟨_, filled, rfl, rfl, rfl, rfl, rfl⟩
  | @dsn connection command operands host port dbname charset =>
    exact ⟨{ config, serverVersion, verbose, command := some .dsn, connection },
      { command, operands, verbose := raised, config := config_filled
        serverVersion := version_filled
        present := nofun
        mode := own.fills command .mode (by simp [Key.BelongsTo]) (by simp [Key.BelongsTo])
        host := fills_eq_none_iff.2 host
        port := fills_none_iff.2 port
        dbname := fills_eq_none_iff.2 dbname
        charset := fills_eq_none_iff.2 charset },
      rfl, rfl, rfl, rfl, rfl⟩

end

/-! ## Requests -/

namespace Request

/-- A command line is accepted exactly when it is read without a question for help and the draft is
finished. -/
theorem ofArguments_eq_ok_iff :
    ofArguments arguments environment = .ok request ↔
      ∃ d, Draft.read {} arguments = .ok d ∧ d.help = none ∧
        d.finish environment = .ok request := by
  unfold ofArguments
  rw [bind_eq_ok_iff]
  refine exists_congr fun d => and_congr_right fun _ => ?_
  cases hh : d.help with
  | none => simp
  | some topic => simp [throw, throwThe, MonadExceptOf.throw, bind, Except.bind]

/-- The settings file is the one that the command line names, or else that of the environment. -/
theorem exists_config_iff {texts : List String} {config : Option String} :
    (∃ given, Fills (fun text path => text = path ∧ path ≠ "") none texts given ∧
        (given = none → environment ≠ some "") ∧ given.or environment = config) ↔
      (∃ path, path ≠ "" ∧ texts = [path] ∧ config = some path) ∨
        texts = [] ∧ config = environment ∧ environment ≠ some "" := by
  constructor
  · rintro ⟨given, filled, named, rfl⟩
    have filled := fills_none_iff.1 filled
    cases given with
    | none => exact .inr ⟨List.forall₂_nil_right_iff.1 filled, rfl, named rfl⟩
    | some path =>
      obtain ⟨text, rest, ⟨rfl, nonempty⟩, none, values⟩ := List.forall₂_cons_right_iff.1 filled
      rw [List.forall₂_nil_right_iff.1 none] at values
      exact .inl ⟨text, nonempty, values, rfl⟩
  · rintro (⟨path, nonempty, rfl, rfl⟩ | ⟨rfl, rfl, named⟩)
    · exact ⟨path, fills_none_iff.2 (.cons ⟨rfl, nonempty⟩ .nil), nofun, rfl⟩
    · exact ⟨none, fills_none_iff.2 .nil, fun _ => named, rfl⟩

/-- **What a command line is accepted as.** -/
theorem ofArguments_eq_ok_iff_isSpelledBy :
    ofArguments arguments environment = .ok request ↔
      request.IsSpelledBy arguments environment := by
  rw [ofArguments_eq_ok_iff]
  constructor
  · rintro ⟨d, read, help, finish⟩
    obtain ⟨waiting, named, task, complete, rfl⟩ := Draft.finish_eq_ok_iff.1 finish
    have explained : ({} : Draft).Explains arguments d := by
      refine Draft.explains_of_read rfl rfl read waiting help fun unnamed => ?_
      simp [Draft.task, unnamed, Draft.refuse] at complete
    obtain ⟨items, gives, leads⟩ := (Draft.explains_iff_of_free rfl).1 explained
    exact ⟨items, gives, {
      config := exists_config_iff.1 ⟨_, leads.config, named, rfl⟩
      serverVersion := fills_eq_none_iff.1 leads.serverVersion
      verbose := by simpa using leads.verbose
      task := asks_of_leads leads complete }⟩
  · rintro ⟨items, gives, asked⟩
    obtain ⟨given, config_filled, named, same⟩ := exists_config_iff.2 asked.config
    -- the items lead to `d'`, the arguments are read as `d`, and both are finished alike
    obtain ⟨d', leads, done, config, version, raised, complete⟩ := exists_leads
      (fun _ foreign later => gives.values_eq_nil foreign later) config_filled
      (fills_eq_none_iff.2 asked.serverVersion) (by simpa using asked.verbose) asked.task
    obtain ⟨d, read, waiting, help, rest⟩ := Draft.arrives_of_gives gives rfl ⟨rfl, rfl, rfl⟩ leads
      fun name command => Nat.le_of_eq (Draft.length_operands complete command)
    refine ⟨d, read, help, ?_⟩
    rw [rest.finish_eq_ok_iff waiting done]
    refine Draft.finish_eq_ok_iff.2 ⟨done, config ▸ named, _, complete, ?_⟩
    rw [config, version, raised, same]

/-- An accepted command line spells its request and no other one. -/
theorem isSpelledBy_iff_eq (accepted : ofArguments arguments environment = .ok request)
    (asked : Request) : asked.IsSpelledBy arguments environment ↔ asked = request := by
  rw [← ofArguments_eq_ok_iff_isSpelledBy, accepted, Except.ok.injEq, eq_comm]

/-- No task asks for a version. -/
theorem asks_cons_serverVersion (asks : Asks items task) (version : String) :
    Asks (.value .serverVersion version :: items) task := by
  cases asks with
  | alter command operands named => exact .alter command operands named
  | constraintName command operands => exact .constraintName command operands
  | lockHint command operands given => exact .lockHint command operands given
  | dsn command operands host port dbname charset =>
    exact .dsn command operands host port dbname charset
  | platform command operands => exact .platform command operands

/-- A version in front of a command line without one is the only thing it changes. -/
theorem ofArguments_serverVersion (accepted : ofArguments arguments environment = .ok request)
    (absent : request.serverVersion = none) (version : String) :
    ofArguments (("--server-version=" ++ version) :: arguments) environment =
      .ok { request with serverVersion := some version } := by
  obtain ⟨items, gives, asked⟩ := ofArguments_eq_ok_iff_isSpelledBy.1 accepted
  have first : Key.serverVersion.BelongsTo none := .inr rfl
  refine ofArguments_eq_ok_iff_isSpelledBy.2
    ⟨.value .serverVersion version :: items, .marked first gives, ?_⟩
  exact { asked with
    serverVersion := by simp [asked.serverVersion, absent]
    task := asks_cons_serverVersion asked.task version
    verbose := by simp [asked.verbose] }

end Request

end TsqlAlter.Command
