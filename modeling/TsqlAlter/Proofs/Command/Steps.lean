import TsqlAlter.Proofs.Command.Spelling
import TsqlAlter.Proofs.Results
import TsqlAlter.Text.Span

/-!
# What one argument is read as

The reading takes one argument after the other into a draft (`Draft.step`). An argument that is
neither the value of an option nor behind two dashes is one of five things (`Takes`).

* A named option that waits for its value in the next argument, or has it behind the sign `=`.
* `--verbose`.
* Short options run together.
* An operand, and before a command the command.

Two dashes make an operand of everything behind them, and an option that waits takes the next
argument whatever it is, unless that begins with a dash. Which text an option accepts is said key by
key (`Accepts`).

Results:
* `Draft.accept_eq_ok_iff`: which values are accepted, and what becomes of the draft.
* `Draft.named_eq_ok_iff`, `Draft.operand_eq_ok_iff`, `Draft.operand_eq_ok_iff_of_none`: the same
  for named options, for operands and for commands.
* `Draft.IsFree.step_eq_ok_iff`: an argument is read exactly as `Takes` says.

Left out: why an argument is refused. A refused command line is no request, whatever the reason.
-/

namespace TsqlAlter.Command.Draft

open Text

variable {d d' d₁ : Draft} {key : Key} {text : String} {name : Name}

/-! ## Values -/

theorem give_eq_ok_iff {α β : Type} {old : Option α} {value b : β} :
    give key old value = .ok b ↔ old = none ∧ value = b := by
  unfold give refuse
  cases old <;> simp

/-- The value of an option is accepted, if the option has none yet. -/
inductive Accepts (d : Draft) : Key → String → Draft → Prop where
  | config {text : String} (new : d.config = none) (given : text ≠ "") :
      Accepts d .config text { d with config := some text }
  | serverVersion {text : String} (new : d.serverVersion = none) :
      Accepts d .serverVersion text { d with serverVersion := some text }
  | mode {text : String} {mode : LockMode} (new : d.mode = none) (typed : text = mode.word) :
      Accepts d .mode text { d with mode := some mode }
  | host {text : String} (new : d.connection.host = none) :
      Accepts d .host text { d with connection.host := some text }
  | port {text : String} {port : UInt16} (new : d.connection.port = none)
      (written : IsPort text port) : Accepts d .port text { d with connection.port := some port }
  | dbname {text : String} (new : d.connection.dbname = none) :
      Accepts d .dbname text { d with connection.dbname := some text }
  | charset {text : String} (new : d.connection.charset = none) :
      Accepts d .charset text { d with connection.charset := some text }

/-- **Which values are accepted.** -/
theorem accept_eq_ok_iff : d.accept key text = .ok d₁ ↔ d.Accepts key text d₁ := by
  constructor
  · intro h
    unfold accept at h
    cases key with
    | config =>
      dsimp only at h
      split at h
      · cases h
      · next given =>
        obtain ⟨new, rfl⟩ := give_eq_ok_iff.1 h
        exact .config new (by simpa using given)
    | mode =>
      dsimp only at h
      split at h
      · next mode typed =>
        obtain ⟨new, rfl⟩ := give_eq_ok_iff.1 h
        exact .mode new (lookup_modes_eq_some_iff.1 typed)
      · cases h
    | port =>
      dsimp only at h
      split at h
      · next n read =>
        obtain ⟨new, rfl⟩ := give_eq_ok_iff.1 h
        exact .port new (port?_eq_some_iff.1 ⟨n, read, rfl⟩)
      · cases h
    | serverVersion =>
      obtain ⟨new, rfl⟩ := give_eq_ok_iff.1 h
      exact .serverVersion new
    | host =>
      obtain ⟨new, rfl⟩ := give_eq_ok_iff.1 h
      exact .host new
    | dbname =>
      obtain ⟨new, rfl⟩ := give_eq_ok_iff.1 h
      exact .dbname new
    | charset =>
      obtain ⟨new, rfl⟩ := give_eq_ok_iff.1 h
      exact .charset new
    | verbose | version | help => cases h
  · intro h
    unfold accept
    cases h with
    | config new given =>
      dsimp only
      rw [if_neg (by simpa using given)]
      exact give_eq_ok_iff.2 ⟨new, rfl⟩
    | mode new typed =>
      dsimp only
      rw [lookup_modes_eq_some_iff.2 typed]
      exact give_eq_ok_iff.2 ⟨new, rfl⟩
    | port new written =>
      obtain ⟨n, read, rfl⟩ := port?_eq_some_iff.2 written
      dsimp only
      rw [read]
      exact give_eq_ok_iff.2 ⟨new, rfl⟩
    | serverVersion new | host new | dbname new | charset new =>
      exact give_eq_ok_iff.2 ⟨new, rfl⟩

theorem Accepts.takesValue (h : d.Accepts key text d₁) : key.takesValue = true := by
  cases h <;> rfl

/-- The drafts stand at the same command, and at the same place of it. -/
structure SamePlace (d d' : Draft) : Prop where
  command : d'.command = d.command
  waiting : d'.waiting = d.waiting
  literal : d'.literal = d.literal
  help : d'.help = d.help

theorem Accepts.samePlace (h : d.Accepts key text d₁) : d.SamePlace d₁ := by
  cases h <;> exact ⟨rfl, rfl, rfl, rfl⟩

/-! ## Options and operands -/

theorem raise_eq_ok_iff :
    d.raise key = .ok d₁ ↔
      key = .verbose ∧ d.verbose = false ∧ { d with verbose := true } = d₁ := by
  unfold raise
  cases key <;> cases d.verbose <;> simp [refuse]

/-- A named option belongs to the place, and has its value or waits for it; or it is `--verbose`. -/
theorem named_eq_ok_iff {word : String} {value : Option String} :
    d.named word value = .ok d₁ ↔
      (∃ key : Key, key.BelongsTo d.command ∧ word = key.word ∧
        ((∃ text, value = some text ∧ d.Accepts key text d₁) ∨
          value = none ∧ { d with waiting := some key } = d₁)) ∨
      (d.command = none ∧ word = "verbose") ∧ value = none ∧ d.verbose = false ∧
        { d with verbose := true } = d₁ := by
  constructor
  · intro h
    unfold named at h
    split at h
    · cases h
    · next key text known =>
      have accepted := accept_eq_ok_iff.1 h
      obtain ⟨belongs, spelled⟩ := lookup_long_eq_some_iff.1 ⟨known, accepted.takesValue⟩
      exact .inl ⟨key, belongs, spelled, .inl ⟨text, rfl, accepted⟩⟩
    · next key known =>
      split at h
      · next valued =>
        obtain ⟨belongs, spelled⟩ := lookup_long_eq_some_iff.1 ⟨known, valued⟩
        exact .inl ⟨key, belongs, spelled, .inr ⟨rfl, Except.ok.inj h⟩⟩
      · obtain ⟨rfl, unraised, rfl⟩ := raise_eq_ok_iff.1 h
        exact .inr ⟨lookup_long_eq_verbose_iff.1 known, rfl, unraised, rfl⟩
  · rintro (⟨key, belongs, spelled, given⟩ | ⟨spelled, rfl, unraised, rfl⟩)
    · obtain ⟨known, valued⟩ := lookup_long_eq_some_iff.2 ⟨belongs, spelled⟩
      unfold named
      rw [known]
      obtain ⟨text, rfl, accepted⟩ | ⟨rfl, rfl⟩ := given
      · exact accept_eq_ok_iff.2 accepted
      · exact if_pos valued
    · unfold named
      rw [lookup_long_eq_verbose_iff.2 spelled]
      exact raise_eq_ok_iff.2 ⟨rfl, unraised, rfl⟩

/-- An operand of a command is taken while the command has fewer. -/
theorem operand_eq_ok_iff (named : d.command = some name) :
    d.operand text = .ok d₁ ↔ d.operands.length < name.operands ∧ ¬(name = .alter ∧ text = "") ∧
      { d with operands := d.operands ++ [text] } = d₁ := by
  unfold operand
  rw [named]
  dsimp only
  split
  · next full => simp [refuse, Nat.not_lt.2 full]
  · next room =>
    split
    · next absent => simp [refuse, absent]
    · next present => simp [Nat.not_le.1 room, present]

/-- In the place of a command stands help or a command. -/
theorem operand_eq_ok_iff_of_none (unnamed : d.command = none) (literal : d.literal = false) :
    d.operand text = .ok d₁ ↔
      text = "help" ∧ { d with help := some none } = d₁ ∨
        ∃ name : Name, text = name.word ∧ { d with command := some name } = d₁ := by
  unfold operand
  rw [unnamed]
  dsimp only
  rw [if_neg (by simp [literal])]
  split
  · next help =>
    constructor
    · intro h
      exact .inl ⟨help, Except.ok.inj h⟩
    · rintro (⟨-, rfl⟩ | ⟨name, spelled, -⟩)
      · rfl
      · rw [help] at spelled
        cases name <;> exact absurd spelled (by decide)
  · next other =>
    split
    · next name known =>
      constructor
      · intro h
        exact .inr ⟨name, lookup_all_eq_some_iff.1 known, Except.ok.inj h⟩
      · rintro (⟨help, -⟩ | ⟨name', spelled, rfl⟩)
        · exact absurd help other
        · rw [lookup_all_eq_some_iff.2 spelled] at known
          rw [Option.some.inj known]
    · next unknown =>
      refine iff_of_false (fun h => ?_) ?_
      · cases h
      · rintro (⟨help, -⟩ | ⟨name, spelled, -⟩)
        · exact other help
        · rw [lookup_all_eq_some_iff.2 spelled] at unknown
          cases unknown

theorem letters_cons {c : Char} (valued : key.takesValue = true)
    (known : (Key.short d.command).lookup c = some key) (more : List Char) :
    d.letters (c :: more) = match more with
      | [] => .ok { d with waiting := some key }
      | '=' :: value => d.accept key (String.ofList value)
      | value => d.accept key (String.ofList value) := by
  rw [Draft.letters, known]
  exact if_pos valued

theorem letters_verbose_eq_ok_iff {c : Char} (known : (Key.short d.command).lookup c = some key)
    (bare : key.takesValue = false) {more : List Char} : d.letters (c :: more) = .ok d₁ ↔
      (d.command = none ∧ c = 'v') ∧ d.verbose = false ∧
        { d with verbose := true }.letters more = .ok d₁ := by
  rw [Draft.letters, known]
  dsimp only
  rw [if_neg (by simp [bare])]
  constructor
  · intro h
    obtain ⟨_, raised, read⟩ := bind_eq_ok_iff.1 h
    obtain ⟨rfl, unraised, rfl⟩ := raise_eq_ok_iff.1 raised
    exact ⟨lookup_short_eq_verbose_iff.1 known, unraised, read⟩
  · rintro ⟨place, unraised, read⟩
    cases known.symm.trans (lookup_short_eq_verbose_iff.2 place)
    exact bind_eq_ok_iff.2 ⟨_, raise_eq_ok_iff.2 ⟨rfl, unraised, rfl⟩, read⟩

theorem letters_verbose {more : List Char} (first : d.command = none) (unraised : d.verbose = false)
    (read : { d with verbose := true }.letters more = .ok d₁) :
    d.letters ('v' :: more) = .ok d₁ :=
  (letters_verbose_eq_ok_iff (lookup_short_eq_verbose_iff.2 ⟨first, rfl⟩) rfl).2
    ⟨⟨first, rfl⟩, unraised, read⟩

/-- A dash is no letter. -/
theorem letters_dash {more : List Char} : d.letters ('-' :: more) ≠ .ok d₁ := by
  have unknown : (Key.short d.command).lookup '-' = none := by
    rcases d.command with _ | name
    · rfl
    · cases name <;> rfl
  rw [Draft.letters, unknown]
  exact nofun

/-! ## One argument -/

theorem isDashed_eq_false_iff : isDashed text = false ↔ IsPlain text := by
  have dash : text = "-" ↔ text.toList = ['-'] := by
    rw [← String.toList_inj]
    rfl
  unfold isDashed IsPlain
  rw [dash]
  split
  · next c more spelled => simp [spelled]
  · next other =>
    refine iff_of_true rfl fun first => ?_
    obtain ⟨more, spelled⟩ := List.head?_eq_some_iff.1 first
    cases more with
    | nil => exact spelled
    | cons c more => exact absurd spelled (other c more)

/-- Behind two dashes every argument is an operand. -/
theorem step_literal (literal : d.literal = true) (help : d.help = none) (text : String) :
    d.step text = d.operand text := by
  rw [step, if_neg (by simp [help]), if_neg (by simp [help]), if_pos literal]

/-- The value that is waited for is plain. -/
theorem step_waiting (literal : d.literal = false) (help : d.help = none)
    (waiting : d.waiting = some key) : d.step text = .ok d₁ ↔
      IsPlain text ∧ { d with waiting := none }.Accepts key text d₁ := by
  rw [step, if_neg (by simp [help]), if_neg (by simp [help]), if_neg (by simp [literal]), waiting,
    ← isDashed_eq_false_iff, ← accept_eq_ok_iff]
  dsimp only
  cases isDashed text <;> simp [refuse]

/-- An argument is read that is not the value of an option, nor behind two dashes. -/
structure IsFree (d : Draft) : Prop where
  waiting : d.waiting = none
  literal : d.literal = false
  help : d.help = none

theorem IsFree.step_eq (free : d.IsFree) (text : String) : d.step text =
    match text.toList with
    | ['-', '-'] => .ok { d with literal := true }
    | '-' :: '-' :: option =>
      d.named (String.ofList (option.takeWhile (· != '=')))
        (match option.dropWhile (· != '=') with
          | [] => none
          | _ :: value => some (String.ofList value))
    | '-' :: c :: more => d.letters (c :: more)
    | _ => d.operand text := by
  obtain ⟨_, _, _, _, _, _, _, waiting, literal, help⟩ := d
  obtain ⟨rfl, rfl, rfl⟩ := free
  rfl

/-- What an argument does there that is not two dashes. -/
inductive Takes (d : Draft) : String → Draft → Prop where
  | waiting {key : Key} (belongs : key.BelongsTo d.command) :
      Takes d ("--" ++ key.word) { d with waiting := some key }
  | marked {key : Key} {text : String} {d₁ : Draft} (belongs : key.BelongsTo d.command)
      (accepted : d.Accepts key text d₁) : Takes d ("--" ++ key.word ++ "=" ++ text) d₁
  | verbose (first : d.command = none) (unraised : d.verbose = false) :
      Takes d "--verbose" { d with verbose := true }
  | letters {letters : List Char} {d₁ : Draft} (nonempty : letters ≠ [])
      (read : d.letters letters = .ok d₁) : Takes d (String.ofList ('-' :: letters)) d₁
  | operand {text : String} {d₁ : Draft} (plain : IsPlain text) (taken : d.operand text = .ok d₁) :
      Takes d text d₁

theorem mark_not_mem_word (key : Key) : '=' ∉ key.word.toList := by
  cases key <;> decide

theorem word_ne_nil (key : Key) : key.word.toList ≠ [] := by
  cases key <;> decide

/-- A named option is cut at the first sign. -/
theorem takes_of_named {option : List Char}
    (named : d.named (String.ofList (option.takeWhile (· != '=')))
      (match option.dropWhile (· != '=') with
        | [] => none
        | _ :: value => some (String.ofList value)) = .ok d₁) :
    d.Takes (String.ofList ('-' :: '-' :: option)) d₁ := by
  have whole : option.takeWhile (· != '=') ++ option.dropWhile (· != '=') = option :=
    List.takeWhile_append_dropWhile
  cases behind : option.dropWhile (· != '=') with
  | nil =>
    rw [behind, List.append_nil] at whole
    rw [behind, whole] at named
    have spelled : String.ofList ('-' :: '-' :: option) = "--" ++ String.ofList option := by
      rw [← String.toList_inj]
      simp
    rw [spelled]
    obtain ⟨key, belongs, word, given⟩ | ⟨⟨first, word⟩, -, unraised, rfl⟩ :=
      named_eq_ok_iff.1 named
    · obtain ⟨text, given, -⟩ | ⟨-, rfl⟩ := given
      · cases given
      · exact word ▸ .waiting belongs
    · exact word ▸ .verbose first unraised
  | cons c value =>
    have sign : c = '=' := by
      have stop := stop_of_dropWhile (c := c) (by rw [behind]; rfl)
      simpa using stop
    rw [behind] at named whole
    obtain ⟨key, belongs, word, given⟩ | ⟨-, given, -⟩ := named_eq_ok_iff.1 named
    · obtain ⟨text, given, accepted⟩ | ⟨given, -⟩ := given
      · cases given
        have spelled : String.ofList ('-' :: '-' :: option) =
            "--" ++ String.ofList (option.takeWhile (· != '=')) ++ "=" ++ String.ofList value := by
          rw [← String.toList_inj]
          conv_lhs => rw [← whole, sign]
          simp
        rw [spelled, word]
        exact .marked belongs accepted
      · cases given
    · cases given

/-- Behind two dashes stands a named option, if anything does. -/
theorem IsFree.step_named (free : d.IsFree) {option : List Char}
    (spelled : text.toList = '-' :: '-' :: option) (nonempty : option ≠ []) :
    d.step text = d.named (String.ofList (option.takeWhile (· != '=')))
      (match option.dropWhile (· != '=') with
        | [] => none
        | _ :: value => some (String.ofList value)) := by
  rw [free.step_eq, spelled]
  split
  · next short =>
    cases short
    exact absurd rfl nonempty
  · next same =>
    cases same
    rfl
  · next other same =>
    cases same
    exact (other rfl).elim
  · next other => exact (other _ _ rfl).elim

theorem IsFree.step_word (free : d.IsFree) (key : Key) :
    d.step ("--" ++ key.word) = d.named key.word none := by
  have spelled : ("--" ++ key.word).toList = '-' :: '-' :: (key.word.toList ++ []) := by simp
  have stop : ∀ c, ([] : List Char).head? = some c → (c != '=') = false := nofun
  obtain ⟨name, value⟩ := span_append (forall_bne_iff.2 (mark_not_mem_word key)) stop
  rw [free.step_named spelled (by simp [word_ne_nil key]), name, value, String.ofList_toList]

theorem IsFree.step_word_value (free : d.IsFree) (key : Key) (text : String) :
    d.step ("--" ++ key.word ++ "=" ++ text) = d.named key.word (some text) := by
  have spelled : ("--" ++ key.word ++ "=" ++ text).toList =
      '-' :: '-' :: (key.word.toList ++ '=' :: text.toList) := by simp
  obtain ⟨name, value⟩ := span_append_cons (mark_not_mem_word key) text.toList
  rw [free.step_named spelled (by simp), name, value, String.ofList_toList]
  simp only [String.ofList_toList]

/-- Behind one dash stand letters, if anything does. -/
theorem IsFree.step_letters (free : d.IsFree) {letters : List Char} (nonempty : letters ≠ [])
    (read : d.letters letters = .ok d₁) : d.step (String.ofList ('-' :: letters)) = .ok d₁ := by
  rw [free.step_eq, String.toList_ofList]
  split
  -- a dash is no letter, so there is no second one
  · next same =>
    cases same
    exact (letters_dash read).elim
  · next same =>
    cases same
    exact (letters_dash read).elim
  · next same =>
    cases same
    exact read
  · next other =>
    cases letters with
    | nil => exact absurd rfl nonempty
    | cons c more => exact (other c more rfl).elim

/-- Anything else is an operand, and so is a dash alone. -/
theorem IsFree.step_plain (free : d.IsFree) (plain : IsPlain text) :
    d.step text = d.operand text := by
  have undashed := isDashed_eq_false_iff.2 plain
  rw [free.step_eq]
  unfold isDashed at undashed
  split
  · next spelled => simp [spelled] at undashed
  · next option _ spelled => simp [spelled] at undashed
  · next spelled => simp [spelled] at undashed
  · rfl

/-- What an argument does is done. -/
theorem IsFree.step_of_takes (free : d.IsFree) (takes : d.Takes text d₁) :
    d.step text = .ok d₁ := by
  cases takes with
  | waiting belongs =>
    rw [free.step_word]
    exact named_eq_ok_iff.2 (.inl ⟨_, belongs, rfl, .inr ⟨rfl, rfl⟩⟩)
  | marked belongs accepted =>
    rw [free.step_word_value]
    exact named_eq_ok_iff.2 (.inl ⟨_, belongs, rfl, .inl ⟨_, rfl, accepted⟩⟩)
  | verbose first unraised =>
    refine (free.step_word .verbose).trans ?_
    exact named_eq_ok_iff.2 (.inr ⟨⟨first, rfl⟩, rfl, unraised, rfl⟩)
  | letters nonempty read => exact free.step_letters nonempty read
  | operand plain taken => exact (free.step_plain plain).trans taken

/-- **What one argument is read as.** -/
theorem IsFree.step_eq_ok_iff (free : d.IsFree) : d.step text = .ok d₁ ↔
    text = "--" ∧ { d with literal := true } = d₁ ∨ d.Takes text d₁ := by
  constructor
  · intro h
    rw [free.step_eq] at h
    split at h
    · next spelled => exact .inl ⟨String.toList_inj.1 spelled, Except.ok.inj h⟩
    · next option _ spelled =>
      have whole : text = String.ofList ('-' :: '-' :: option) := by
        rw [← spelled, String.ofList_toList]
      exact .inr (whole ▸ takes_of_named h)
    · next c letters _ _ spelled =>
      have whole : text = String.ofList ('-' :: c :: letters) := by
        rw [← spelled, String.ofList_toList]
      exact .inr (whole ▸ .letters (List.cons_ne_nil _ _) h)
    · next undashed =>
      refine .inr (.operand (isDashed_eq_false_iff.1 ?_) h)
      unfold isDashed
      split
      · next c more spelled => exact absurd spelled (undashed c more)
      · rfl
  · rintro (⟨rfl, rfl⟩ | takes)
    · exact free.step_eq "--"
    · exact free.step_of_takes takes

end TsqlAlter.Command.Draft
