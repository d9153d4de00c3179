import TsqlAlter.Json.Decode
import TsqlAlter.Proofs.Json.Reading
import TsqlAlter.Proofs.Json.Writing
import TsqlAlter.Proofs.Results

/-!
# Values that are read back

A decoder walks the tree of a text. The text of an exact value is read as the tree of the value, so
whatever a decoder makes of that tree is read back from the text: `Value.ReadsAs`. Each decoder has
a law that says which values it reads back.

`Value.ReadsAs v d a` says that the value is exact and that the decoder makes `a` of its tree.

Results:
* `read_spelled`: a text is read as the tree that it spells is decoded.
* `Value.ReadsAs.read_text`: so is the text of an exact value.
* `integer_readsAs`, `option_readsAs`, `list_readsAs`, `entries_readsAs`, `carried_readsAs`:
  numbers, optional values, lists, maps and choices are read back.
* `exists_of_mem_list`: the items of a list that was read were read.

Left out: texts that are refused, but for those of records with a wrong key (`Proofs/Json/Records`).
-/

namespace TsqlAlter.Json

variable {α β : Type}

/-- The value is exact, and a decoder reads it as `a`. -/
structure Value.ReadsAs (v : Value) (d : Decoder α) (a : α) : Prop where
  exact : v.IsExact
  decode : d v.tree = .ok a

/-- A text is read as the tree that it spells is decoded. -/
theorem read_spelled {t : Tree} {text : String} (h : Spelled t text.toList) (d : Decoder α) :
    read d text = d t := by
  rw [read, Document.ofText_spelled h]
  cases d t <;> rfl

/-- **What its tree is read as, a value is read as from its text.** -/
theorem Value.ReadsAs.read_text {d : Decoder α} {v : Value} {a : α} (h : v.ReadsAs d a) :
    read d v.text = .ok a := by
  rw [read_spelled h.exact.spelled_text, h.decode]

theorem decode_of_read {d : Decoder α} {text : String} {a : α} (h : read d text = .ok a) :
    d (Document.ofText text).root = .ok a := by
  obtain ⟨b, decoded, h⟩ := bind_eq_ok_iff.1 h
  split at h
  · cases h
  · cases h
    exact decoded

namespace Decoder

theorem string_readsAs (s : String) : (Value.string s).ReadsAs string s :=
  ⟨.string s, by rw [Value.tree]; rfl⟩

theorem bool_readsAs (b : Bool) : (Value.bool b).ReadsAs bool b :=
  ⟨.bool b, by rw [Value.tree]; rfl⟩

theorem map_readsAs {d : Decoder α} {f : α → β} {v : Value} {a : α} (h : v.ReadsAs d a) :
    v.ReadsAs (d.map f) (f a) :=
  ⟨h.exact, by rw [map, h.decode]; rfl⟩

/-- A number is read back from its integer if that is within the bounds of its type. -/
theorem integer_readsAs {type : String} {least greatest i : Int} {f : Int → α} {a : α}
    (same : f i = a) (bounds : least ≤ i ∧ i ≤ greatest)
    (narrow : -0x8000000000000000 ≤ least ∧ greatest < 0x10000000000000000) :
    (Value.integer i).ReadsAs (map f (integer type least greatest)) a := by
  have exact : (Value.integer i).IsExact := .integer (by omega) (by omega)
  refine same ▸ map_readsAs ⟨exact, ?_⟩
  rw [Value.tree, integer, if_pos bounds]

theorem uint8_readsAs (n : UInt8) : (Value.nat n.toNat).ReadsAs uint8 n :=
  integer_readsAs (by simp) (by have := n.toNat_lt; omega) (by decide)

theorem uint16_readsAs (n : UInt16) : (Value.nat n.toNat).ReadsAs uint16 n :=
  integer_readsAs (by simp) (by have := n.toNat_lt; omega) (by decide)

theorem uint32_readsAs (n : UInt32) : (Value.nat n.toNat).ReadsAs uint32 n :=
  integer_readsAs (by simp) (by have := n.toNat_lt; omega) (by decide)

theorem int64_readsAs (i : Int64) : (Value.integer i.toInt).ReadsAs int64 i :=
  integer_readsAs (by simp) (by have := i.le_toInt; have := i.toInt_lt; omega) (by decide)

theorem option_eq_null_iff {f : α → Value} (h : ∀ a, f a ≠ .null) {o : Option α} :
    Value.option f o = .null ↔ o = none := by
  cases o with
  | none => exact ⟨fun _ => rfl, fun _ => rfl⟩
  | some a => exact ⟨fun e => absurd e (h a), fun e => by cases e⟩

theorem option_some {d : Decoder α} {v : Value} (h : v ≠ .null) :
    d.option v.tree = (d v.tree).map some := by
  cases v with
  | null => exact absurd rfl h
  | array items => rw [Value.tree_array]; rfl
  | object members => rw [Value.tree_object]; rfl
  | _ => rw [Value.tree]; rfl

/-- A value that may be absent is read back if it is read back where it is present. -/
theorem option_readsAs {d : Decoder α} {f : α → Value} {o : Option α}
    (h : ∀ a, o = some a → f a ≠ .null ∧ (f a).ReadsAs d a) :
    (Value.option f o).ReadsAs d.option o := by
  cases o with
  | none => exact ⟨.null, by rw [Value.option, Value.tree]; rfl⟩
  | some a =>
    obtain ⟨present, back⟩ := h a rfl
    exact ⟨back.exact, by rw [Value.option, option_some present, back.decode]; rfl⟩

theorem option_string_readsAs (o : Option String) :
    (Value.option .string o).ReadsAs (option string) o :=
  option_readsAs fun s _ => ⟨Value.noConfusion, string_readsAs s⟩

/-- A list is read back if its items are. -/
theorem list_readsAs {d : Decoder α} {R : α → Value → Prop} {as : List α} {items : List Value}
    (h : List.Forall₂ R as items) (back : ∀ a ∈ as, ∀ v, R a v → v.ReadsAs d a) :
    (Value.array items).ReadsAs d.list as := by
  have each : List.Forall₂ (fun a v => v.ReadsAs d a) as items :=
    ((List.forall₂_and_left _ _).2 ⟨back, h⟩).imp fun a v h => h.1 v h.2
  have values : (items.map Value.tree).mapM d = .ok as := by
    rw [mapM_eq_ok_iff, List.forall₂_map_left_iff]
    exact each.flip.imp fun v a back => back.decode
  have exact (v : Value) (hv : v ∈ items) : v.IsExact := by
    obtain ⟨a, -, back⟩ := exists_of_mem_right each v hv
    exact back.exact
  refine ⟨.array exact, ?_⟩
  rw [Value.tree_array, list, values]
  rfl

theorem exists_refuse (expected : String) (t : Tree) :
    ∃ e, (refuse expected : Decoder α) t = .error e := by
  unfold refuse
  cases t.found with
  | ok found => exact ⟨_, rfl⟩
  | error f => exact ⟨_, rfl⟩

/-- What a list holds was read from a tree. -/
theorem exists_of_mem_list {d : Decoder α} {t : Tree} {as : List α} (h : d.list t = .ok as) :
    ∀ a ∈ as, ∃ t, d t = .ok a := by
  unfold list at h
  split at h
  · obtain ⟨values, hv, h⟩ := bind_eq_ok_iff.1 h
    obtain ⟨_, -, h⟩ := bind_eq_ok_iff.1 h
    cases h
    intro a ha
    obtain ⟨t, -, read⟩ := exists_of_mem_right (mapM_eq_ok_iff.1 hv) a ha
    exact ⟨t, read⟩
  · obtain ⟨e, refused⟩ := exists_refuse (α := List α) "a sequence" t
    cases refused.symm.trans h

/-- A map is read back if its keys and values are. -/
theorem entries_readsAs {κ : Type} {key : String → Except ReadError κ} {d : Decoder α}
    {name : κ → String} {f : α → Value} {entries : List (κ × α)}
    (keys : ∀ e ∈ entries, key (name e.1) = .ok e.1)
    (values : ∀ e ∈ entries, (f e.2).ReadsAs d e.2) :
    (Value.object (entries.map fun e => (name e.1, f e.2))).ReadsAs (Decoder.entries key d)
      entries := by
  have each : ((entries.map fun e => (name e.1, f e.2)).map fun m => (some m.1, m.2.tree)).mapM
      (entry key d) = .ok entries := by
    rw [mapM_eq_ok_iff, List.map_map, List.forall₂_map_left_iff, List.forall₂_same]
    intro e he
    simp only [Function.comp_apply, entry, keys e he, (values e he).decode]
    rfl
  refine ⟨.object (List.forall_mem_map.2 fun e he => (values e he).exact), ?_⟩
  rw [Value.tree_object, Decoder.entries, each]
  rfl

section Choice

variable {choices : List (String × (Except ReadError α × Decoder α))} {name : String}
  {bare : Except ReadError α} {carried : Decoder α} {a : α}

/-- A bare name is read as what it means. -/
theorem bare_readsAs (h : choices.lookup name = some (.ok a, carried)) :
    (Value.string name).ReadsAs (choice choices) a :=
  ⟨.string name, by rw [Value.tree, choice, named_eq_ok_iff.2 h]; rfl⟩

/-- A name with a value is read as what the value is read as. -/
theorem carried_readsAs {v : Value} (back : v.ReadsAs carried a)
    (h : choices.lookup name = some (bare, carried)) :
    (Value.object [(name, v)]).ReadsAs (choice choices) a := by
  refine ⟨.object fun m hm => List.mem_singleton.1 hm ▸ back.exact, ?_⟩
  rw [Value.tree_object, List.map_singleton, choice, named_eq_ok_iff.2 h]
  simp only [bind, Except.bind, back.decode]
  rfl

end Choice

end Decoder

end TsqlAlter.Json
