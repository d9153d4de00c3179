import TsqlAlter.Proofs.Command.Steps

/-!
# What items lead to

The items of a command line say what a request is made of, whatever the spelling. They lead from one
draft to another one (`Draft.Leads`), if the second one has the command, the operands in their order
and the values of the options that the first one has together with those of the items. An option has
room for one value (`Fills`), so that a second one leads nowhere. Where in the command line the
reading stands is no matter of the items.

Results:
* `Draft.leads_command`, `Draft.leads_operand`, `Draft.leads_verbose`, `Draft.leads_value_iff`: what
  one item more leads to is what the step for it leads to.
* `Gives.values_eq_nil`: options of other commands are not among the items that arguments give.

Left out: the order of options among each other, for it is without effect.
-/

namespace TsqlAlter.Command

/-! ## Items one by one -/

namespace Item

variable {items : List Item} {key other : Key} {text : String} {name : Name}

@[simp] theorem commands_nil : commands [] = [] := rfl
@[simp] theorem commands_command : commands (.command name :: items) = name :: commands items := rfl
@[simp] theorem commands_operand : commands (.operand text :: items) = commands items := rfl
@[simp] theorem commands_value : commands (.value key text :: items) = commands items := rfl
@[simp] theorem commands_verbose : commands (.verbose :: items) = commands items := rfl

@[simp] theorem operands_nil : operands [] = [] := rfl
@[simp] theorem operands_command : operands (.command name :: items) = operands items := rfl
@[simp] theorem operands_operand : operands (.operand text :: items) = text :: operands items := rfl
@[simp] theorem operands_value : operands (.value key text :: items) = operands items := rfl
@[simp] theorem operands_verbose : operands (.verbose :: items) = operands items := rfl

@[simp] theorem values_nil : values key [] = [] := rfl
@[simp] theorem values_command : values key (.command name :: items) = values key items := rfl
@[simp] theorem values_operand : values key (.operand text :: items) = values key items := rfl
@[simp] theorem values_verbose : values key (.verbose :: items) = values key items := rfl

@[simp] theorem values_value : values key (.value other text :: items) =
    if other = key then text :: values key items else values key items := by
  unfold values
  rw [List.filterMap_cons]
  by_cases same : other = key <;> simp [same]

theorem commands_append {more : List Item} :
    commands (items ++ more) = commands items ++ commands more :=
  List.filterMap_append

theorem values_append {more : List Item} :
    values key (items ++ more) = values key items ++ values key more :=
  List.filterMap_append

end Item

/-! ## Options of their command -/

variable {scope : Option Name} {letters : List Char} {items given : List Item} {key waited : Key}

theorem Awaits.belongs (h : Awaits scope letters given waited) : waited.BelongsTo scope := by
  induction h with
  | last belongs _ => exact belongs
  | verbose _ _ ih => exact ih

theorem Awaits.nonempty (h : Awaits scope letters given waited) : letters ≠ [] := by
  cases h <;> exact List.cons_ne_nil _ _

theorem ne_of_belongsTo (foreign : ¬key.BelongsTo scope) (belongs : waited.BelongsTo scope) :
    waited ≠ key := by
  rintro rfl
  exact foreign belongs

/-- Letters give no command, and values of options of their place only. -/
theorem Letters.scoped (h : Letters scope letters given) (foreign : ¬key.BelongsTo scope) :
    Item.commands given = [] ∧ Item.values key given = [] := by
  induction h with
  | done => exact ⟨rfl, rfl⟩
  | verbose _ _ ih => exact ih
  | value belongs | marked belongs => simp [ne_of_belongsTo foreign belongs]

theorem Awaits.scoped (h : Awaits scope letters given waited) (key : Key) :
    Item.commands given = [] ∧ Item.values key given = [] := by
  induction h with
  | last => exact ⟨rfl, rfl⟩
  | verbose _ _ ih => exact ih

/-- An option that belongs neither to the place nor to a command among the items is not given. -/
theorem Gives.values_eq_nil {arguments : List String} (gives : Gives scope arguments items)
    (foreign : ¬key.BelongsTo scope)
    (later : ∀ name ∈ Item.commands items, ¬key.BelongsTo (some name)) :
    Item.values key items = [] := by
  induction gives with
  | done => rfl
  | command name rest ih =>
    rw [Item.commands_command, List.forall_mem_cons] at later
    exact ih later.1 later.2
  | operand plain rest ih | verbose rest ih => exact ih foreign later
  | operands texts => simp [Item.values, List.filterMap_map]
  | value belongs plain rest ih | marked belongs rest ih =>
    rw [Item.values_value, if_neg (ne_of_belongsTo foreign belongs)]
    exact ih foreign later
  | letters nonempty spelled rest ih =>
    obtain ⟨commands, values⟩ := spelled.scoped foreign
    rw [Item.values_append, values]
    rw [Item.commands_append, commands] at later
    exact ih foreign later
  | awaiting spelled plain rest ih =>
    obtain ⟨commands, values⟩ := spelled.scoped key
    rw [Item.values_append, values, List.nil_append, Item.values_value,
      if_neg (ne_of_belongsTo foreign spelled.belongs)]
    rw [Item.commands_append, commands] at later
    exact ih foreign later

/-! ## Room for values -/

/-- The texts are those of the values that an option had not and has in the end; there is room for
one. -/
def Fills {α : Type} (R : String → α → Prop) (before : Option α) (texts : List String)
    (after : Option α) : Prop :=
  ∃ values, List.Forall₂ R texts values ∧ before.toList ++ values = after.toList

variable {α : Type} {R : String → α → Prop} {before after : Option α} {texts : List String}
  {text : String}

theorem fills_nil_iff : Fills R before [] after ↔ before = after := by
  cases before <;> cases after <;> simp [Fills]

theorem fills_cons_iff : Fills R before (text :: texts) after ↔
      before = none ∧ ∃ a, R text a ∧ Fills R (some a) texts after := by
  unfold Fills
  constructor
  · rintro ⟨_, related, total⟩
    obtain ⟨a, values, first, rest, rfl⟩ := List.forall₂_cons_left_iff.1 related
    cases before with
    | none => exact ⟨rfl, a, first, values, rest, total⟩
    | some b => cases after <;> simp at total
  · rintro ⟨rfl, a, first, values, rest, total⟩
    exact ⟨a :: values, .cons first rest, total⟩

theorem fills_none_iff : Fills R none texts after ↔ List.Forall₂ R texts after.toList := by
  constructor
  · rintro ⟨values, related, rfl⟩
    exact related
  · intro related
    exact ⟨_, related, rfl⟩

theorem fills_eq_none_iff {after : Option String} :
    Fills Eq none texts after ↔ texts = after.toList := by
  rw [fills_none_iff, List.forall₂_eq_eq_eq]

/-! ## Item by item -/

namespace Draft

/-- The items lead from a draft to another one, in what a request is made of. -/
structure Leads (d : Draft) (items : List Item) (d' : Draft) : Prop where
  command : d.command.toList ++ Item.commands items = d'.command.toList
  operands : d.operands ++ Item.operands items = d'.operands
  present : d'.command = some .alter → "" ∉ Item.operands items
  verbose : d.verbose.toNat + items.count .verbose = d'.verbose.toNat
  config : Fills (fun text path => text = path ∧ path ≠ "") d.config (Item.values .config items)
    d'.config
  serverVersion : Fills Eq d.serverVersion (Item.values .serverVersion items) d'.serverVersion
  mode : Fills (fun text mode => text = mode.word) d.mode (Item.values .mode items) d'.mode
  host : Fills Eq d.connection.host (Item.values .host items) d'.connection.host
  port : Fills IsPort d.connection.port (Item.values .port items) d'.connection.port
  dbname : Fills Eq d.connection.dbname (Item.values .dbname items) d'.connection.dbname
  charset : Fills Eq d.connection.charset (Item.values .charset items) d'.connection.charset

variable {d d' d₁ : Draft} {items : List Item} {key : Key} {text : String} {name : Name}

theorem leads_nil (d : Draft) : d.Leads [] d where
  command := List.append_nil _
  operands := List.append_nil _
  present _ := List.not_mem_nil
  verbose := rfl
  config := fills_nil_iff.2 rfl
  serverVersion := fills_nil_iff.2 rfl
  mode := fills_nil_iff.2 rfl
  host := fills_nil_iff.2 rfl
  port := fills_nil_iff.2 rfl
  dbname := fills_nil_iff.2 rfl
  charset := fills_nil_iff.2 rfl

/-- The command stays. -/
theorem Leads.command_eq (h : d.Leads items d') (named : d.command = some name) :
    d'.command = some name := by
  have total := h.command
  rw [named] at total
  cases later : d'.command with
  | none => simp [later] at total
  | some other => simp_all

theorem leads_command (new : d.command = none) :
    d.Leads (.command name :: items) d' ↔ { d with command := some name }.Leads items d' := by
  constructor
  · intro h
    exact { h with command := by simpa [new] using h.command }
  · intro h
    exact { h with command := by simpa [new] using h.command }

theorem leads_operand : d.Leads (.operand text :: items) d' ↔
    (d'.command = some .alter → text ≠ "") ∧
      { d with operands := d.operands ++ [text] }.Leads items d' := by
  constructor
  · intro h
    refine ⟨fun alter e => ?_, { h with
      operands := by simpa using h.operands
      present := fun alter e => ?_ }⟩
    · exact h.present alter (by simp [e])
    · exact h.present alter (by simp [e])
  · rintro ⟨first, h⟩
    exact { h with
      operands := by simpa using h.operands
      present := fun alter => by simpa [eq_comm, first alter] using h.present alter }

theorem leads_verbose : d.Leads (.verbose :: items) d' ↔
    d.verbose = false ∧ { d with verbose := true }.Leads items d' := by
  constructor
  · intro h
    have total := h.verbose
    rw [List.count_cons_self] at total
    have bound := Bool.toNat_le d'.verbose
    cases unraised : d.verbose with
    | true =>
      rw [unraised, Bool.toNat_true] at total
      omega
    | false =>
      rw [unraised] at total
      exact ⟨rfl, { h with verbose := by simpa [Nat.add_comm] using total }⟩
  · rintro ⟨unraised, h⟩
    exact { h with verbose := by simpa [unraised, Nat.add_comm] using h.verbose }

/-- The value of an option leads where the draft leads that accepts it. -/
theorem leads_of_accepts (accepted : d.Accepts key text d₁) (h : d₁.Leads items d') :
    d.Leads (.value key text :: items) d' := by
  cases accepted with
  | config new given =>
    exact { h with config := fills_cons_iff.2 ⟨new, _, ⟨rfl, given⟩, h.config⟩ }
  | serverVersion new =>
    exact { h with serverVersion := fills_cons_iff.2 ⟨new, _, rfl, h.serverVersion⟩ }
  | mode new typed => exact { h with mode := fills_cons_iff.2 ⟨new, _, typed, h.mode⟩ }
  | host new => exact { h with host := fills_cons_iff.2 ⟨new, _, rfl, h.host⟩ }
  | port new written => exact { h with port := fills_cons_iff.2 ⟨new, _, written, h.port⟩ }
  | dbname new => exact { h with dbname := fills_cons_iff.2 ⟨new, _, rfl, h.dbname⟩ }
  | charset new => exact { h with charset := fills_cons_iff.2 ⟨new, _, rfl, h.charset⟩ }

theorem leads_value_iff (valued : key.takesValue = true) :
    d.Leads (.value key text :: items) d' ↔ ∃ d₁, d.Accepts key text d₁ ∧ d₁.Leads items d' := by
  refine ⟨fun h => ?_, fun ⟨_, accepted, h⟩ => leads_of_accepts accepted h⟩
  cases key with
  | config =>
    obtain ⟨new, _, ⟨rfl, given⟩, filled⟩ := fills_cons_iff.1 h.config
    exact ⟨_, .config new given, { h with config := filled }⟩
  | serverVersion =>
    obtain ⟨new, _, rfl, filled⟩ := fills_cons_iff.1 h.serverVersion
    exact ⟨_, .serverVersion new, { h with serverVersion := filled }⟩
  | mode =>
    obtain ⟨new, _, typed, filled⟩ := fills_cons_iff.1 h.mode
    exact ⟨_, .mode new typed, { h with mode := filled }⟩
  | host =>
    obtain ⟨new, _, rfl, filled⟩ := fills_cons_iff.1 h.host
    exact ⟨_, .host new, { h with host := filled }⟩
  | port =>
    obtain ⟨new, _, written, filled⟩ := fills_cons_iff.1 h.port
    exact ⟨_, .port new written, { h with port := filled }⟩
  | dbname =>
    obtain ⟨new, _, rfl, filled⟩ := fills_cons_iff.1 h.dbname
    exact ⟨_, .dbname new, { h with dbname := filled }⟩
  | charset =>
    obtain ⟨new, _, rfl, filled⟩ := fills_cons_iff.1 h.charset
    exact ⟨_, .charset new, { h with charset := filled }⟩
  | verbose | version | help => cases valued

end Draft

end TsqlAlter.Command
