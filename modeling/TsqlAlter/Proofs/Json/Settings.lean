import TsqlAlter.Proofs.Json.Records
import TsqlAlter.Settings

/-!
# Settings and JSON

Settings are read back from their JSON text: an absent connection is told from one without
parameters, and hints are read back from the modes they are written with. A text that is a JSON
object and has a key that is none of the settings, or one of the settings twice, is refused,
wherever the key stands, however it is written, and whatever stands before or after it.

`keys` are the settings by name. The keys of a text are those that its grammar gives it, not those
that a reader finds.

Results:
* `HintTable.readsAs`, `Connection.readsAs`, `Settings.readsAs`: what is read back.
* `Settings.ofText_strict`: settings are read back from their text, and nothing is read from a text
  with an unknown or repeated key.

Left out: the keys of the hints and of the connection inside. A connection may have others than its
own, which are skipped.
-/

namespace TsqlAlter

open Json Decoder

/-! ## Lock hints -/

namespace HintTable

/-- A table is made of its own entries. -/
theorem ofList_entries (t : HintTable) : ofList t.entries = t := by
  obtain ⟨a, b, c, d⟩ := t
  cases a <;> cases b <;> cases c <;> cases d <;> rfl

/-- A table is read back from its modes and their hints. -/
theorem readsAs (t : HintTable) : t.toJson.ReadsAs decode t := by
  have modes (m : LockMode) : named LockMode.byName m.name = .ok m := by cases m <;> rfl
  have back := map_readsAs (f := ofList) <|
    entries_readsAs (fun (e : LockMode × String) (_ : e ∈ t.entries) => modes e.1)
      fun e _ => string_readsAs e.2
  rwa [ofList_entries] at back

end HintTable

/-- A connection is read back from the parameters it has and those it lacks. -/
theorem Connection.readsAs (c : Connection) : c.toJson.ReadsAs decode c := by
  refine Format.Leads.readsAs ?_ (.refl _ : Abridges [] _ _) rfl (by decide) (by decide) (by simp)
  exact .cons (option_string_readsAs _) rfl (by simp) <|
    .cons (option_readsAs fun n _ => ⟨Value.noConfusion, uint16_readsAs n⟩) rfl (by simp) <|
    .cons (option_string_readsAs _) rfl (by simp) <|
    .cons (option_string_readsAs _) rfl (by simp) rfl

namespace Settings

/-- Settings are read back. -/
theorem readsAs (s : Settings) : s.toJson.ReadsAs decode s := by
  refine Format.Leads.readsAs ?_ (.refl _ : Abridges [] _ _) rfl (by decide) (by decide) (by simp)
  exact .cons (option_string_readsAs _) rfl (by simp) <|
    .cons s.hints.readsAs rfl (by simp) <|
    .cons (bool_readsAs s.replaceHints) rfl (by simp) <|
    .cons (option_readsAs fun c _ => ⟨Value.noConfusion, c.readsAs⟩) rfl (by simp) rfl

/-- The keys of settings. -/
def keys : List String := ["server_version", "lock_hints", "replace_lock_hints", "connection"]

/-- **Settings are read back from their JSON text; a text with an unknown or repeated key is
refused.** -/
theorem ofText_strict :
    (∀ s : Settings, ofText s.toJson.text = .ok s) ∧
    ∀ (text : String) (members : List (Option String × Tree)),
      Spelled (.object members .closed) text.toList →
      ((∃ m ∈ members, ∀ key ∈ keys, m.1 ≠ some key) ∨
        ∃ key ∈ keys, 2 ≤ (members.map Prod.fst).count (some key)) →
      ∃ e, ofText text = .error (.json e) := by
  refine ⟨fun s => ?_, fun text members spelled bad => ?_⟩
  · rw [ofText, s.readsAs.read_text]
    rfl
  · have refused : ∃ e, decode (.object members .closed) = .error e := by
      refine Format.exists_error_of_strict rfl .closed (bad.imp_right ?_)
      rintro ⟨key, -, twice⟩ distinct
      have once := List.nodup_iff_count.1 distinct (some key)
      omega
    obtain ⟨e, refused⟩ := refused
    refine ⟨e, ?_⟩
    rw [ofText, read_spelled spelled, refused]
    rfl

/-- A key that is escaped, with blanks around it. -/
def strange : String := "\x7b \"h\\u006fst\" : [ ] \x7d"

/-- It is the member `host`, which settings do not have. -/
theorem spelled_strange :
    Spelled (.object [(some "host", .array [] .closed)] .closed) strange.toList := by
  have blank : Blank [' '] := by simp [Blank]
  have pieces : Text.Spelled [.char 'h', .unit 0x6F, .char 's', .char 't']
      ['h', '\\', 'u', '0', '0', '6', 'f', 's', 't'] :=
    .cons (.plain 'h' (by decide) (by decide) (by decide)) <|
    .cons (.unit '0' '0' '6' 'f' 0x6F (by decide)) <|
    .cons (.plain 's' (by decide) (by decide) (by decide)) <|
    .cons (.plain 't' (by decide) (by decide) (by decide)) .nil
  have denotes : Text.Denotes [.char 'h', .unit 0x6F, .char 's', .char 't'] ['h', 'o', 's', 't'] :=
    .char 'h' <| .unit 0x6F (by decide) (by decide) <| .char 's' <| .char 't' .nil
  have key := KeySpelled.mk blank (.value pieces denotes) blank
  exact .object (.one key (.blanks blank (.noItems blank) blank))

/-- One setting given twice. -/
def repeated : Value := .object [("connection", .null), ("connection", .null)]

/-- An escaped key and a repeated one are refused. -/
theorem ofText_strict_host :
    (∃ e, ofText strange = .error (.json e)) ∧
    repeated.text = "\x7b\"connection\":null,\"connection\":null\x7d" ∧
    ∃ e, ofText repeated.text = .error (.json e) := by
  have exact : repeated.IsExact := .object fun m hm => by
    simp only [List.mem_cons, List.not_mem_nil, or_false, or_self] at hm
    exact hm ▸ .null
  have spelled := exact.spelled_text
  rw [repeated, Value.tree_object] at spelled
  have twice : 2 ≤ List.count (some "connection") [some "connection", some "connection"] := by
    decide
  exact ⟨ofText_strict.2 strange _ spelled_strange (.inl ⟨_, List.mem_cons_self, by decide⟩),
    by decide +kernel, ofText_strict.2 repeated.text _ spelled (.inr ⟨_, by decide, twice⟩)⟩

end Settings

end TsqlAlter
