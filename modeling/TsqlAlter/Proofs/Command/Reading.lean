import TsqlAlter.Proofs.Command.Items

/-!
# Reading the arguments

The arguments that are read to their end are those that give items (`Gives`), and the draft in the
end is the one that the items lead to (`Draft.Leads`). Both directions go along the arguments: from
a run of the reading to the items by induction on the arguments, where the option that waits for its
value stands in front of those still to come (`Draft.Explains`), and from the items to a run by
induction on how the arguments give them.

Results:
* `Draft.exists_letters`, `Draft.exists_draft_of_letters`, `Draft.exists_draft_of_awaits`: the same
  for the letters of one argument.
* `Draft.explains_of_takes`: one argument more (the step).
* `Draft.explains_of_read`: arguments that are read give items that lead to what was read (the run).
* `Draft.arrives_of_gives`: arguments that give items are read, if no command is given more operands
  than it has.

Left out: command lines that ask for help or for the version of the program. They end the reading
or make no request.
-/

namespace TsqlAlter.Command.Draft

variable {d d' d₁ : Draft} {items given : List Item} {key : Key} {text : String} {name : Name}
  {letters : List Char} {arguments more texts : List String} {scope : Option Name}

/-! ## From arguments to items -/

/-- Letters were read as items, after which the reading stands where it did or waits for a value. -/
theorem exists_letters (free : d.waiting = none) (read : d.letters letters = .ok d₁) :
    ∃ given, (∀ ⦃items d'⦄, d₁.Leads items d' → d.Leads (given ++ items) d') ∧
      (d.SamePlace d₁ ∧ Letters d.command letters given ∨
        ∃ key, { d with waiting := some key }.SamePlace d₁ ∧
          Awaits d.command letters given key) := by
  induction letters generalizing d with
  | nil =>
    cases read
    exact ⟨[], fun _ _ h => h, .inl ⟨⟨rfl, rfl, rfl, rfl⟩, .done⟩⟩
  | cons c rest ih =>
    cases known : (Key.short d.command).lookup c with
    | none =>
      rw [Draft.letters, known] at read
      cases read
    | some key =>
      cases valued : key.takesValue with
      | false =>
        obtain ⟨⟨first, rfl⟩, unraised, read⟩ := (letters_verbose_eq_ok_iff known valued).1 read
        obtain ⟨given, leads, place⟩ := ih (d := { d with verbose := true }) free read
        refine ⟨.verbose :: given, fun _ _ h => leads_verbose.2 ⟨unraised, leads h⟩, ?_⟩
        obtain ⟨same, read⟩ | ⟨key, same, read⟩ := place
        · exact .inl ⟨{ same with }, .verbose first read⟩
        · exact .inr ⟨key, { same with }, .verbose first read⟩
      | true =>
        obtain ⟨belongs, lettered⟩ := lookup_short_eq_some_iff.1 ⟨known, valued⟩
        rw [letters_cons valued known] at read
        split at read
        · cases read
          exact ⟨[], fun _ _ h => { h with },
            .inr ⟨key, ⟨rfl, rfl, rfl, rfl⟩, .last belongs lettered⟩⟩
        · next text =>
          have accepted := accept_eq_ok_iff.1 read
          exact ⟨_, fun _ _ => leads_of_accepts accepted,
            .inl ⟨accepted.samePlace, .marked belongs lettered⟩⟩
        · next nonempty unmarked =>
          have accepted := accept_eq_ok_iff.1 read
          refine ⟨_, fun _ _ => leads_of_accepts accepted,
            .inl ⟨accepted.samePlace, .value belongs lettered nonempty fun marked => ?_⟩⟩
          obtain ⟨text, rfl⟩ := List.head?_eq_some_iff.1 marked
          exact unmarked text rfl

theorem leads_of_operand (named : d.command = some name) (taken : d.operand text = .ok d₁)
    (h : d₁.Leads items d') : d.Leads (.operand text :: items) d' := by
  obtain ⟨-, present, rfl⟩ := (operand_eq_ok_iff named).1 taken
  refine leads_operand.2 ⟨fun alter empty => present ⟨?_, empty⟩, h⟩
  exact Option.some.inj ((h.command_eq named).symm.trans alter)

/-- Behind two dashes the arguments are operands of the command. -/
theorem leads_of_literal (literal : d.literal = true) (help : d.help = none)
    (named : d.command = some name) (read : d.read texts = .ok d') :
    d.Leads (texts.map .operand) d' := by
  induction texts generalizing d with
  | nil =>
    cases read
    exact leads_nil _
  | cons text more ih =>
    obtain ⟨d₁, taken, read⟩ := bind_eq_ok_iff.1 read
    rw [step_literal literal help] at taken
    refine leads_of_operand named taken ?_
    obtain ⟨-, -, rfl⟩ := (operand_eq_ok_iff named).1 taken
    exact ih literal help named read

/-- Before a command nothing is taken behind two dashes. -/
theorem command_of_literal (literal : d.literal = true) (help : d.help = none)
    (unnamed : d.command = none) (read : d.read texts = .ok d') : d'.command = none := by
  cases texts with
  | nil =>
    cases read
    exact unnamed
  | cons text more =>
    obtain ⟨d₁, taken, -⟩ := bind_eq_ok_iff.1 read
    rw [step_literal literal help, operand, unnamed] at taken
    dsimp only at taken
    rw [if_pos literal] at taken
    cases taken

/-- A question for help stays one. -/
theorem help_of_read (help : d.help ≠ none) (read : d.read arguments = .ok d') :
    d'.help ≠ none := by
  induction arguments generalizing d with
  | nil =>
    cases read
    exact help
  | cons argument more ih =>
    obtain ⟨d₁, stepped, read⟩ := bind_eq_ok_iff.1 read
    refine ih ?_ read
    unfold step at stepped
    split at stepped
    · unfold topic at stepped
      split at stepped
      · cases stepped
        exact Option.some_ne_none _
      · cases stepped
    · split at stepped
      · cases stepped
      · next absent => exact absurd (Option.isSome_iff_ne_none.2 help) absent

/-- The arguments still to come, behind the option that waits for its value if there is one, give
items that lead to the draft. -/
def Explains (d : Draft) (arguments : List String) (d' : Draft) : Prop :=
  match d.waiting with
  | none => ∃ items, Gives d.command arguments items ∧ d.Leads items d'
  | some key => ∃ text more items, arguments = text :: more ∧ IsPlain text ∧
      Gives d.command more items ∧ d.Leads (.value key text :: items) d'

theorem explains_iff_of_free (waiting : d.waiting = none) :
    d.Explains arguments d' ↔ ∃ items, Gives d.command arguments items ∧ d.Leads items d' := by
  unfold Explains
  rw [waiting]

theorem explains_iff_of_waiting (waiting : d.waiting = some key) :
    d.Explains arguments d' ↔ ∃ text more items, arguments = text :: more ∧ IsPlain text ∧
      Gives d.command more items ∧ d.Leads (.value key text :: items) d' := by
  unfold Explains
  rw [waiting]

theorem literal_of_takes (free : d.IsFree) (takes : d.Takes text d₁) : d₁.literal = d.literal := by
  cases takes with
  | waiting _ | verbose _ _ => rfl
  | marked _ accepted => exact accepted.samePlace.literal
  | letters _ read =>
    obtain ⟨_, -, ⟨same, -⟩ | ⟨_, same, -⟩⟩ := exists_letters free.waiting read
    · exact same.literal
    · exact same.literal
  | operand _ taken =>
    cases command : d.command with
    | some name =>
      obtain ⟨-, -, rfl⟩ := (operand_eq_ok_iff command).1 taken
      rfl
    | none =>
      obtain ⟨-, rfl⟩ | ⟨_, -, rfl⟩ := (operand_eq_ok_iff_of_none command free.literal).1 taken
      · rfl
      · rfl

/-- One argument more. -/
theorem explains_of_takes (free : d.IsFree) (takes : d.Takes text d₁) (help : d₁.help = none)
    (rest : d₁.Explains more d') : d.Explains (text :: more) d' := by
  rw [explains_iff_of_free free.waiting]
  cases takes with
  | waiting belongs =>
    obtain ⟨value, more, items, rfl, plain, gives, leads⟩ := (explains_iff_of_waiting rfl).1 rest
    exact ⟨_, .value belongs plain gives, { leads with }⟩
  | marked belongs accepted =>
    have same := accepted.samePlace
    have waiting := same.waiting.trans free.waiting
    obtain ⟨items, gives, leads⟩ := (explains_iff_of_free waiting).1 rest
    exact ⟨_, .marked belongs (same.command ▸ gives), leads_of_accepts accepted leads⟩
  | verbose first unraised =>
    obtain ⟨items, gives, leads⟩ :=
      (explains_iff_of_free (d := { d with verbose := true }) free.waiting).1 rest
    refine ⟨.verbose :: items, ?_, leads_verbose.2 ⟨unraised, leads⟩⟩
    rw [first] at gives ⊢
    exact .verbose gives
  | letters nonempty read =>
    obtain ⟨given, leads, ⟨same, spelled⟩ | ⟨key, same, spelled⟩⟩ :=
      exists_letters free.waiting read
    · have waiting := same.waiting.trans free.waiting
      obtain ⟨items, gives, rest⟩ := (explains_iff_of_free waiting).1 rest
      exact ⟨_, .letters nonempty spelled (same.command ▸ gives), leads rest⟩
    · obtain ⟨text, more, items, rfl, plain, gives, rest⟩ :=
        (explains_iff_of_waiting same.waiting).1 rest
      exact ⟨_, .awaiting spelled plain (same.command ▸ gives), leads rest⟩
  | operand plain taken =>
    cases command : d.command with
    | some name =>
      have leads : ∀ items, d₁.Leads items d' → d.Leads (.operand text :: items) d' :=
        fun _ => leads_of_operand command taken
      obtain ⟨-, -, rfl⟩ := (operand_eq_ok_iff command).1 taken
      obtain ⟨items, gives, rest⟩ :=
        (explains_iff_of_free (d := { d with operands := d.operands ++ [_] }) free.waiting).1 rest
      exact ⟨_, .operand plain (command ▸ gives), leads items rest⟩
    | none =>
      obtain ⟨rfl, rfl⟩ | ⟨name, rfl, rfl⟩ :=
        (operand_eq_ok_iff_of_none command free.literal).1 taken
      · cases help
      · obtain ⟨items, gives, rest⟩ :=
          (explains_iff_of_free (d := { d with command := some name }) free.waiting).1 rest
        exact ⟨_, .command name gives, (leads_command command).2 rest⟩

/-- **What arguments were read as.** -/
theorem explains_of_read (literal : d.literal = false) (help : d.help = none)
    (read : d.read arguments = .ok d') (done : d'.waiting = none) (unasked : d'.help = none)
    (named : d'.command ≠ none) : d.Explains arguments d' := by
  induction arguments generalizing d with
  | nil =>
    cases read
    exact (explains_iff_of_free done).2 ⟨[], .done, leads_nil _⟩
  | cons argument more ih =>
    obtain ⟨d₁, stepped, later⟩ := bind_eq_ok_iff.1 read
    cases waiting : d.waiting with
    | some key =>
      obtain ⟨plain, accepted⟩ := (step_waiting literal help waiting).1 stepped
      have same := accepted.samePlace
      have rest := ih (same.literal.trans literal) (same.help.trans help) later
      obtain ⟨items, gives, leads⟩ := (explains_iff_of_free same.waiting).1 rest
      refine (explains_iff_of_waiting waiting).2 ⟨argument, more, items, rfl, plain, ?_,
        { leads_of_accepts accepted leads with }⟩
      exact same.command ▸ gives
    | none =>
      have free : d.IsFree := ⟨waiting, literal, help⟩
      obtain ⟨rfl, rfl⟩ | takes := free.step_eq_ok_iff.1 stepped
      · cases command : d.command with
        | none =>
          have unnamed :=
            command_of_literal (d := { d with literal := true }) rfl help command later
          exact absurd unnamed named
        | some name =>
          have leads := leads_of_literal (d := { d with literal := true }) rfl help command later
          exact (explains_iff_of_free waiting).2 ⟨_, command ▸ .operands more, { leads with }⟩
      · -- help asked for here would still be asked for in the end
        have help₁ : d₁.help = none := by_contra fun asked => help_of_read asked later unasked
        have literal₁ := (literal_of_takes free takes).trans literal
        exact explains_of_takes free takes help₁ (ih literal₁ help₁ later)

/-! ## From items to a run -/

/-- Letters that give items are read as them. -/
theorem exists_draft_of_letters (spelled : Letters scope letters given) (here : d.command = scope)
    (leads : d.Leads (given ++ items) d') :
    ∃ d₁, d.letters letters = .ok d₁ ∧ d.SamePlace d₁ ∧ d₁.Leads items d' := by
  induction spelled generalizing d with
  | done => exact ⟨d, rfl, ⟨rfl, rfl, rfl, rfl⟩, leads⟩
  | verbose first rest ih =>
    obtain ⟨unraised, leads⟩ := leads_verbose.1 leads
    obtain ⟨d₁, read, same, leads⟩ := ih (d := { d with verbose := true }) here leads
    exact ⟨d₁, letters_verbose (here.trans first) unraised read, { same with }, leads⟩
  | @value key letter text belongs lettered nonempty unmarked =>
    subst here
    obtain ⟨known, valued⟩ := lookup_short_eq_some_iff.2 ⟨belongs, lettered⟩
    obtain ⟨d₁, accepted, leads⟩ := (leads_value_iff valued).1 leads
    refine ⟨d₁, ?_, accepted.samePlace, leads⟩
    rw [letters_cons valued known]
    split
    · exact absurd rfl nonempty
    · exact absurd rfl unmarked
    · exact accept_eq_ok_iff.2 accepted
  | marked belongs lettered =>
    subst here
    obtain ⟨known, valued⟩ := lookup_short_eq_some_iff.2 ⟨belongs, lettered⟩
    obtain ⟨d₁, accepted, leads⟩ := (leads_value_iff valued).1 leads
    exact ⟨d₁, (letters_cons valued known _).trans (accept_eq_ok_iff.2 accepted),
      accepted.samePlace, leads⟩

theorem exists_draft_of_awaits (spelled : Awaits scope letters given key) (here : d.command = scope)
    (leads : d.Leads (given ++ items) d') :
    ∃ d₁, d.letters letters = .ok d₁ ∧ { d with waiting := some key }.SamePlace d₁ ∧
      d₁.Leads items d' := by
  induction spelled generalizing d with
  | last belongs lettered =>
    subst here
    obtain ⟨known, valued⟩ := lookup_short_eq_some_iff.2 ⟨belongs, lettered⟩
    exact ⟨_, letters_cons valued known [], ⟨rfl, rfl, rfl, rfl⟩, { leads with }⟩
  | verbose first rest ih =>
    obtain ⟨unraised, leads⟩ := leads_verbose.1 leads
    obtain ⟨d₁, read, same, leads⟩ := ih (d := { d with verbose := true }) here leads
    exact ⟨d₁, letters_verbose (here.trans first) unraised read, { same with }, leads⟩

theorem SamePlace.isFree (same : d.SamePlace d₁) (free : d.IsFree) : d₁.IsFree where
  waiting := same.waiting.trans free.waiting
  literal := same.literal.trans free.literal
  help := same.help.trans free.help

/-- An operand that leads to no more than the command has is taken. -/
theorem operand_of_leads (named : d.command = some name)
    (leads : d.Leads (.operand text :: items) d')
    (room : ∀ name, d'.command = some name → d'.operands.length ≤ name.operands) :
    d.operand text = .ok { d with operands := d.operands ++ [text] } ∧
      { d with operands := d.operands ++ [text] }.Leads items d' := by
  obtain ⟨present, rest⟩ := leads_operand.1 leads
  have later := rest.command_eq named
  refine ⟨(operand_eq_ok_iff named).2 ⟨?_, ?_, rfl⟩, rest⟩
  · have total := congrArg List.length rest.operands
    simp only [List.length_append, List.length_singleton] at total
    have := room name later
    omega
  · rintro ⟨rfl, empty⟩
    exact present later empty

/-- The arguments are read to their end, and nothing is missing from there to the draft. -/
def Arrives (d : Draft) (arguments : List String) (d' : Draft) : Prop :=
  ∃ d₁, d.read arguments = .ok d₁ ∧ d₁.waiting = none ∧ d₁.help = none ∧ d₁.Leads [] d'

theorem Arrives.cons (rest : d₁.Arrives more d') (stepped : d.step text = .ok d₁) :
    d.Arrives (text :: more) d' := by
  obtain ⟨d₂, read, done⟩ := rest
  exact ⟨d₂, bind_eq_ok_iff.2 ⟨_, stepped, read⟩, done⟩

/-- Behind two dashes operands are read as such. -/
theorem arrives_of_literal (literal : d.literal = true) (help : d.help = none)
    (waiting : d.waiting = none) (named : d.command = some name)
    (leads : d.Leads (texts.map .operand) d')
    (room : ∀ name, d'.command = some name → d'.operands.length ≤ name.operands) :
    d.Arrives texts d' := by
  induction texts generalizing d with
  | nil => exact ⟨d, rfl, waiting, help, leads⟩
  | cons text more ih =>
    obtain ⟨taken, rest⟩ := operand_of_leads named leads room
    have rest :=
      ih (d := { d with operands := d.operands ++ [text] }) literal help waiting named rest
    exact rest.cons ((step_literal literal help text).trans taken)

/-- A value that is waited for is read, and then what follows it. -/
theorem arrives_of_waiting (literal : d.literal = false) (help : d.help = none)
    (waiting : d.waiting = some key) (valued : key.takesValue = true) (plain : IsPlain text)
    (leads : d.Leads (.value key text :: items) d')
    (rest : ∀ d₁ : Draft, d₁.command = d.command → d₁.IsFree → d₁.Leads items d' →
      d₁.Arrives more d') : d.Arrives (text :: more) d' := by
  have leads : { d with waiting := none }.Leads (.value key text :: items) d' := { leads with }
  obtain ⟨d₁, accepted, leads⟩ := (leads_value_iff valued).1 leads
  have same := accepted.samePlace
  have rest := rest d₁ same.command (same.isFree ⟨rfl, literal, help⟩) leads
  exact rest.cons ((step_waiting literal help waiting).2 ⟨plain, accepted⟩)

/-- **Arguments that give items are read**, if the items lead to a draft with no more operands than
its command has. -/
theorem arrives_of_gives (gives : Gives scope arguments items) (here : d.command = scope)
    (free : d.IsFree) (leads : d.Leads items d')
    (room : ∀ name, d'.command = some name → d'.operands.length ≤ name.operands) :
    d.Arrives arguments d' := by
  induction gives generalizing d with
  | done => exact ⟨d, rfl, free.waiting, free.help, leads⟩
  | command name rest ih =>
    have rest := ih (d := { d with command := some name }) rfl { free with }
      ((leads_command here).1 leads)
    refine rest.cons (free.step_eq_ok_iff.2 (.inr (.operand ?_ ?_)))
    · cases name <;> decide
    · exact (operand_eq_ok_iff_of_none here free.literal).2 (.inr ⟨name, rfl, rfl⟩)
  | operand plain rest ih =>
    obtain ⟨taken, leads⟩ := operand_of_leads here leads room
    have rest := ih (d := { d with operands := d.operands ++ [_] }) here { free with } leads
    exact rest.cons (free.step_eq_ok_iff.2 (.inr (.operand plain taken)))
  | operands texts =>
    have rest := arrives_of_literal (d := { d with literal := true }) rfl free.help free.waiting
      here { leads with } room
    exact rest.cons (free.step_eq_ok_iff.2 (.inl ⟨rfl, rfl⟩))
  | verbose rest ih =>
    obtain ⟨unraised, leads⟩ := leads_verbose.1 leads
    have rest := ih (d := { d with verbose := true }) here { free with } leads
    exact rest.cons (free.step_eq_ok_iff.2 (.inr (.verbose here unraised)))
  | @value _ key _ _ _ belongs plain rest ih =>
    subst here
    have rest := arrives_of_waiting (d := { d with waiting := some key }) free.literal free.help rfl
      belongs.takesValue plain { leads with } fun _ same free leads => ih same free leads
    exact rest.cons (free.step_eq_ok_iff.2 (.inr (.waiting belongs)))
  | marked belongs rest ih =>
    subst here
    obtain ⟨d₁, accepted, leads⟩ := (leads_value_iff belongs.takesValue).1 leads
    have rest := ih accepted.samePlace.command (accepted.samePlace.isFree free) leads
    exact rest.cons (free.step_eq_ok_iff.2 (.inr (.marked belongs accepted)))
  | letters nonempty spelled rest ih =>
    obtain ⟨d₁, taken, same, leads⟩ := exists_draft_of_letters spelled here leads
    have rest := ih (same.command.trans here) (same.isFree free) leads
    exact rest.cons (free.step_eq_ok_iff.2 (.inr (.letters nonempty taken)))
  | awaiting spelled plain rest ih =>
    obtain ⟨d₁, taken, same, leads⟩ := exists_draft_of_awaits spelled here leads
    have rest := arrives_of_waiting (same.literal.trans free.literal) (same.help.trans free.help)
      same.waiting spelled.belongs.takesValue plain leads
      fun _ command free leads => ih (command.trans (same.command.trans here)) free leads
    exact rest.cons (free.step_eq_ok_iff.2 (.inr (.letters spelled.nonempty taken)))

end TsqlAlter.Command.Draft
