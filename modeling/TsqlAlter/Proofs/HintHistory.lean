import Mathlib.Data.Set.Card
import TsqlAlter.Proofs.Json.Settings

/-!
# Lock hints after a history

A hint table is set up by default, left empty, or comes with a platform built from settings. Then
hints are set and taken out, and whole tables are replaced, also by what a JSON text holds. Whatever
the order of these steps, the table is the function from lock mode to hint in which the last write
for each mode counts (`lastWrites`), and nothing else of the history can be told from it.

`HintOrigin` is where a table comes from and `HintStep` what a host may do with it; `hint` and
`writes` say of both what they mean, apart from the table. `Behaves` says of a table that it is a
given function in all that can be asked of it.

Results:
* `get_setAll`: hints set one after the other are writes.
* `Platform.get_step`: what one step writes; `Platform.get_run`: what a run of steps writes.
* `HintTable.behaves`: size, appended text and JSON text of a table, from its hints.
* `Platform.behaves_run`: the table after a history.

Left out: why a text holds no hint table. One that holds none is ignored.
-/

namespace TsqlAlter

open Json

theorem LockMode.mem_all (mode : LockMode) : mode ∈ all := by cases mode <;> decide

/-! ## Writes -/

/-- The hints after some writes, each of a hint or of none. -/
def lastWrites (hints : LockMode → Option String) (writes : List (LockMode × Option String))
    (mode : LockMode) : Option String :=
  (writes.reverse.lookup mode).getD (hints mode)

/-- A write for each mode. -/
def writesOf (hints : LockMode → Option String) : List (LockMode × Option String) :=
  LockMode.all.map fun mode => (mode, hints mode)

/-- The writes by which some hints take the place of all others. -/
def rewrites (hints : List (LockMode × String)) : List (LockMode × Option String) :=
  writesOf (fun _ => none) ++ hints.map fun hint => (hint.1, some hint.2)

variable {hints : LockMode → Option String}

theorem lastWrites_append (hints : LockMode → Option String)
    (first second : List (LockMode × Option String)) :
    lastWrites hints (first ++ second) = lastWrites (lastWrites hints first) second := by
  funext mode
  rw [lastWrites, lastWrites, List.reverse_append, List.lookup_append]
  cases second.reverse.lookup mode <;> rfl

theorem lastWrites_singleton (hints : LockMode → Option String) (mode : LockMode)
    (hint : Option String) (other : LockMode) :
    lastWrites hints [(mode, hint)] other = if other = mode then hint else hints other := by
  rw [lastWrites, List.reverse_singleton, List.lookup_cons]
  by_cases h : other = mode
  · rw [if_pos h, beq_iff_eq.2 h]
    rfl
  · rw [if_neg h, beq_false_of_ne h]
    rfl

theorem lastWrites_writesOf (hints written : LockMode → Option String) :
    lastWrites hints (writesOf written) = written := by
  funext mode
  cases mode <;> rfl

/-- Rewritten hints do not depend on those before. -/
theorem lastWrites_rewrites (hints : LockMode → Option String)
    (pairs : List (LockMode × String)) (mode : LockMode) :
    lastWrites hints (rewrites pairs) mode =
      lastWrites (fun _ => none) (pairs.map fun hint => (hint.1, some hint.2)) mode := by
  rw [rewrites, lastWrites_append, lastWrites_writesOf]

namespace HintTable

/-- Hints set one after the other are writes. -/
theorem get_setAll (t : HintTable) (pairs : List (LockMode × String)) :
    (t.setAll pairs).get = lastWrites t.get (pairs.map fun hint => (hint.1, some hint.2)) := by
  induction pairs generalizing t with
  | nil => rfl
  | cons hint more ih =>
    have first : (t.set hint.1 hint.2).get = lastWrites t.get [(hint.1, some hint.2)] := by
      funext mode
      rw [get_set, lastWrites_singleton]
    show ((t.set hint.1 hint.2).setAll more).get = _
    rw [ih, first, ← lastWrites_append]
    rfl

theorem get_empty (mode : LockMode) : empty.get mode = .none := by cases mode <;> rfl

theorem get_ofList (before : LockMode → Option String) (pairs : List (LockMode × String)) :
    (ofList pairs).get = lastWrites before (rewrites pairs) := by
  funext mode
  rw [lastWrites_rewrites, ofList, get_setAll, funext get_empty]

/-- The hints of a table written over others count where there are any. -/
theorem get_setAll_entries (t u : HintTable) (mode : LockMode) :
    (t.setAll u.entries).get mode = (u.get mode).or (t.get mode) := by
  obtain ⟨a, b, c, d⟩ := u
  cases mode <;> cases a <;> cases b <;> cases c <;> cases d <;> rfl

/-! ## A table and its hints -/

/-- The table is the function that gives each mode this hint. -/
structure Behaves (t : HintTable) (hints : LockMode → Option String) : Prop where
  get : ∀ mode, t.get mode = hints mode
  take : ∀ mode, (t.take mode).1 = hints mode
  size : t.size = {mode | (hints mode).isSome = true}.ncard
  isEmpty : t.isEmpty = true ↔ ∀ mode, hints mode = .none
  append_some : ∀ clause mode hint, hints mode = some hint → t.append clause mode = clause ++ hint
  append_none : ∀ clause mode, hints mode = .none → t.append clause mode = clause
  /-- Its JSON text is that of any table with these hints, and is read back. -/
  text : ∀ u : HintTable, (∀ mode, u.get mode = hints mode) →
    u.toJson.text = t.toJson.text ∧ ofText t.toJson.text = .ok u

theorem size_eq_ncard (t : HintTable) : t.size = {mode | (t.get mode).isSome = true}.ncard := by
  have modes : {mode | (t.get mode).isSome = true} =
      ((LockMode.all.filter fun mode => (t.get mode).isSome).toFinset : Set LockMode) := by
    ext mode
    simp [LockMode.mem_all]
  have distinct : (LockMode.all.filter fun mode => (t.get mode).isSome).Nodup :=
    List.Nodup.filter _ (by decide)
  rw [modes, Set.ncard_coe_finset, List.toFinset_card_of_nodup distinct, size, entries,
    List.length_filterMap_eq_countP, List.countP_eq_length_filter]
  simp only [Option.isSome_map]

theorem isEmpty_iff (t : HintTable) : t.isEmpty = true ↔ ∀ mode, t.get mode = .none := by
  rw [isEmpty, List.isEmpty_iff, entries, List.filterMap_eq_nil_iff]
  constructor
  · intro h mode
    exact Option.map_eq_none_iff.1 (h mode mode.mem_all)
  · intro h mode _
    rw [h mode]
    rfl

/-- Size, appended text and JSON text of a table, from its hints. -/
theorem behaves {t : HintTable} (h : ∀ mode, t.get mode = hints mode) : t.Behaves hints := by
  obtain rfl : t.get = hints := funext h
  refine ⟨fun _ => rfl, fun _ => rfl, t.size_eq_ncard, t.isEmpty_iff, ?_, ?_, ?_⟩
  · intro clause mode hint hget
    rw [append, hget]
  · intro clause mode hget
    rw [append, hget]
  · intro u hu
    obtain rfl : u = t := ext_get hu
    exact ⟨rfl, u.readsAs.read_text⟩

/-- The hints that a JSON text holds, in text order. -/
def given? (text : String) : Option (List (LockMode × String)) :=
  (Json.read (.entries (Decoder.named LockMode.byName) .string) text).toOption

/-- A text that spells hints holds these. -/
theorem given?_of_spelled {text : String} {pairs : List (LockMode × String)}
    (h : Spelled (.object (pairs.map fun hint => (some hint.1.name, .string hint.2)) .closed)
      text.toList) : given? text = some pairs := by
  have modes (m : LockMode) : Decoder.named LockMode.byName m.name = .ok m := by cases m <;> rfl
  have back : (Value.object (pairs.map fun hint => (hint.1.name, .string hint.2))).ReadsAs
      (.entries (Decoder.named LockMode.byName) .string) pairs :=
    Decoder.entries_readsAs (fun hint _ => modes hint.1) fun hint _ => Decoder.string_readsAs hint.2
  have decoded := back.decode
  rw [Value.tree_object, List.map_map] at decoded
  have same : ∀ hint : LockMode × String, (some hint.1.name, Tree.string hint.2) =
      (some hint.1.name, (Value.string hint.2).tree) := by
    intro hint
    rw [Value.tree]
  rw [given?, read_spelled h, List.map_congr_left fun hint _ => same hint]
  exact congrArg Except.toOption decoded

/-- A table is read from a text exactly if that holds hints. -/
theorem ofText_toOption (text : String) : (ofText text).toOption = (given? text).map ofList := by
  have same : ofText text =
      (Json.read (.entries (Decoder.named LockMode.byName) .string) text).map ofList := by
    unfold ofText decode Json.read Decoder.map
    dsimp only
    cases Decoder.entries (Decoder.named LockMode.byName) .string (Document.ofText text).root with
    | error e => rfl
    | ok pairs =>
      simp only [Except.map, bind, Except.bind]
      split <;> rfl
  rw [same, given?]
  cases Json.read (.entries (Decoder.named LockMode.byName) .string) text <;> rfl

end HintTable

/-! ## Histories -/

/-- Where a hint table comes from. -/
inductive HintOrigin where
  | standard
  | empty
  /-- The platform that settings describe. -/
  | settings (s : Settings)

namespace HintOrigin

/-- The platform that holds the table. -/
def platform : HintOrigin → Except Error Platform
  | standard => .ok (.ofRelease .newest)
  | empty => .ok ((Platform.ofRelease .newest).setHints .empty)
  | settings s => s.platform

/-- The hint of each mode. Hints of settings stand alone or before the standard ones. -/
def hint : HintOrigin → LockMode → Option String
  | standard, mode => HintTable.standard.get mode
  | empty, _ => none
  | settings s, mode =>
    if s.replaceHints then s.hints.get mode
    else (s.hints.get mode).or (HintTable.standard.get mode)

theorem get_platform {o : HintOrigin} {p : Platform} (h : o.platform = .ok p) (mode : LockMode) :
    p.hints.get mode = o.hint mode := by
  cases o with
  | standard =>
    cases h
    rfl
  | empty =>
    cases h
    exact HintTable.get_empty mode
  | settings s =>
    obtain ⟨r, -, rfl⟩ := map_eq_ok_iff.1 h
    show s.hintTable.get mode = if s.replaceHints then _ else _
    unfold Settings.hintTable
    split
    · rfl
    · rw [HintTable.get_setAll_entries]

end HintOrigin

/-- What a host can do with the hint table of a platform. -/
inductive HintStep where
  | set (mode : LockMode) (hint : String)
  | unset (mode : LockMode)
  /-- Makes a new table of hints. -/
  | replace (hints : List (LockMode × String))
  /-- Reads a new table from a JSON text; one that holds none is ignored. -/
  | read (text : String)
  /-- Sets a hint through the platform. -/
  | setHint (mode : LockMode) (hint : String)
  /-- Gives the platform another table. -/
  | setHints (table : HintTable)

/-- What a step writes. -/
def HintStep.writes : HintStep → List (LockMode × Option String)
  | set mode hint => [(mode, some hint)]
  | unset mode => [(mode, none)]
  | replace hints => rewrites hints
  | read text => ((HintTable.given? text).map rewrites).getD []
  | setHint mode hint => [(mode, some hint)]
  | setHints table => writesOf table.get

namespace Platform

/-- Takes a step. -/
def step (p : Platform) : HintStep → Platform
  | .set mode hint => p.setHints (p.hints.set mode hint)
  | .unset mode => p.setHints (p.hints.take mode).2
  | .replace hints => p.setHints (.ofList hints)
  | .read text => p.setHints ((HintTable.ofText text).toOption.getD p.hints)
  | .setHint mode hint => p.setHint mode hint
  | .setHints table => p.setHints table

/-- Takes steps one after the other. -/
def run (p : Platform) (steps : List HintStep) : Platform := steps.foldl step p

/-- **What one step writes** is what it does. -/
theorem get_step (p : Platform) (s : HintStep) :
    (p.step s).hints.get = lastWrites p.hints.get s.writes := by
  cases s with
  | set mode hint =>
    funext other
    rw [HintStep.writes, lastWrites_singleton]
    exact p.hints.get_set mode other hint
  | setHint mode hint =>
    funext other
    rw [HintStep.writes, lastWrites_singleton]
    exact p.hints.get_set mode other hint
  | unset mode =>
    funext other
    rw [HintStep.writes, lastWrites_singleton]
    exact p.hints.get_unset mode other
  | replace hints => exact HintTable.get_ofList p.hints.get hints
  | read text =>
    show ((HintTable.ofText text).toOption.getD p.hints).get = _
    rw [HintTable.ofText_toOption, HintStep.writes]
    cases HintTable.given? text with
    | none => rfl
    | some hints => exact HintTable.get_ofList p.hints.get hints
  | setHints table => exact (lastWrites_writesOf p.hints.get table.get).symm

/-- **What a run of steps writes** is what it does. -/
theorem get_run (p : Platform) (steps : List HintStep) :
    (p.run steps).hints.get = lastWrites p.hints.get (steps.flatMap HintStep.writes) := by
  induction steps generalizing p with
  | nil => rfl
  | cons s steps ih =>
    show ((p.step s).run steps).hints.get = _
    rw [ih, get_step, List.flatMap_cons, lastWrites_append]

/-- **The table after a history** is the function in which the last write for each mode counts.
Two histories that come to the same hints come to the same JSON text, which is read back as either
table. A text that spells hints is read as these, in its order. -/
theorem behaves_run {o : HintOrigin} {p : Platform} (built : o.platform = .ok p)
    (steps : List HintStep) :
    (p.run steps).hints.Behaves (lastWrites o.hint (steps.flatMap HintStep.writes)) ∧
    (∀ (o' : HintOrigin) (p' : Platform) (steps' : List HintStep), o'.platform = .ok p' →
      (∀ mode, lastWrites o'.hint (steps'.flatMap HintStep.writes) mode =
        lastWrites o.hint (steps.flatMap HintStep.writes) mode) →
      (p'.run steps').hints.toJson.text = (p.run steps).hints.toJson.text ∧
        HintTable.ofText (p.run steps).hints.toJson.text = .ok (p'.run steps').hints) ∧
    ∀ (text : String) (pairs : List (LockMode × String)),
      Spelled (.object (pairs.map fun hint => (some hint.1.name, .string hint.2)) .closed)
        text.toList → (HintStep.read text).writes = rewrites pairs := by
  have after {o : HintOrigin} {p : Platform} (built : o.platform = .ok p)
      (steps : List HintStep) (mode : LockMode) :
      (p.run steps).hints.get mode = lastWrites o.hint (steps.flatMap HintStep.writes) mode := by
    rw [get_run, show p.hints.get = o.hint from funext (o.get_platform built)]
  have behaves := HintTable.behaves (after built steps)
  refine ⟨behaves, fun o' p' steps' built' same => ?_, fun text pairs spelled => ?_⟩
  · exact behaves.text _ fun mode => (after built' steps' mode).trans (same mode)
  · rw [HintStep.writes, HintTable.given?_of_spelled spelled]
    rfl

/-- Settings with a hint of their own. -/
def ownHint : Settings := { hints := { none := some " WITH (READPAST)" } }

/-- A hint is taken out, all are replaced by those of a text that gives one twice, and another one
is set through the platform. -/
def rereading : List HintStep := [
  .unset .pessimisticRead,
  .read "\x7b\"optimistic\":\" WITH (XLOCK)\",\"optimistic\":\" WITH (SNAPSHOT)\"\x7d",
  .setHint .none " WITH (NOLOCK)"]

/-- The later one of the two hints that the text gives is left, and the one set after it. -/
theorem behaves_run_rereading :
    ∃ p, (HintOrigin.settings ownHint).platform = .ok p ∧
      (p.run rereading).hints.Behaves fun
        | .none => some " WITH (NOLOCK)"
        | .optimistic => some " WITH (SNAPSHOT)"
        | _ => none := by
  have built : (HintOrigin.settings ownHint).platform =
      .ok ((Platform.ofRelease .newest).setHints ownHint.hintTable) := rfl
  have behaves := (behaves_run built rereading).1
  refine ⟨_, built, ?_⟩
  convert behaves using 1
  funext mode
  cases mode <;> decide +kernel

end Platform

end TsqlAlter
