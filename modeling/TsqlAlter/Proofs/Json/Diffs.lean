import TsqlAlter.Diff.Json
import TsqlAlter.Proofs.Json.Columns

/-!
# Table diffs and JSON

A diff is read back from its JSON text, and from every text that lacks some of the optional members
that have their default value there. A diff that was read has types that are spelled by their names,
which is what the reading back of a type needs.

`Change.Abridged`, `Rename.Abridged` and `TableDiff.Abridged` are the written forms of these, with
or without the members that may be left out.

Results:
* `AttributeSet.readsAs`, `Change.Abridged.readsAs`, `Rename.Abridged.readsAs`: the parts of a diff
  are read back.
* `TableDiff.canonical_of_decode`: the types of a diff that was read are read from their names.
* `TableDiff.ofText_abridged`: a diff is read back, also with members left out.

Left out: members in another order, and members of other names, which are skipped.
-/

namespace TsqlAlter

open Json Decoder

/-! ## The parts of a diff -/

theorem Attribute.readsAs (a : Attribute) : (Value.string a.text).ReadsAs decode a :=
  ⟨.string a.text, by rw [Value.tree, decode_string]⟩

/-- A set of attributes is read back from its members in declared order. -/
theorem AttributeSet.readsAs (s : AttributeSet) : s.toJson.ReadsAs decode s := by
  have items : List.Forall₂ (fun (a : Attribute) v => v = .string a.text) s.toList
      (s.toList.map fun a => Value.string a.text) :=
    List.forall₂_map_right_iff.2 (List.forall₂_same.2 fun a _ => rfl)
  have back := map_readsAs (f := ofList) <| list_readsAs items fun a _ v e => e ▸ a.readsAs
  have same : ofList s.toList = s := ext fun a => by
    rw [Bool.eq_iff_iff, has_ofList, mem_toList]
  rwa [same] at back

/-- The JSON form of a change, with members of its columns left out. -/
inductive Change.Abridged (c : Change) : Value → Prop
  | mk {before after : Value} : c.before.Abridged before → c.after.Abridged after →
    Abridged c (.object [
      ("old_name", .string c.oldName),
      ("changed_properties", c.attributes.toJson),
      ("from", before),
      ("column", after)])

/-- The JSON form of a rename, with members of its column left out. -/
inductive Rename.Abridged (r : Rename) : Value → Prop
  | mk {column : Value} : r.column.Abridged column →
    Abridged r (.object [("old_name", .string r.oldName), ("column", column)])

namespace Change

/-- A change is read back if its columns are. -/
theorem Abridged.readsAs {c : Change} {v : Value} (h : c.Abridged v)
    (before : c.before.IsReadable) (after : c.after.IsReadable) : v.ReadsAs decode c := by
  obtain ⟨hb, ha⟩ := h
  refine Format.Leads.readsAs ?_ (.refl _ : Abridges [] _ _) rfl (by decide) (by decide) (by simp)
  exact .cons (string_readsAs c.oldName) rfl (by simp) <|
    .cons c.attributes.readsAs rfl (by simp) <|
    .cons (hb.readsAs before) rfl (by simp) <|
    .cons (ha.readsAs after) rfl (by simp) rfl

theorem abridged_toJson (c : Change) : c.Abridged c.toJson :=
  .mk c.before.abridged_toJson c.after.abridged_toJson

/-- The types of a change that was read are read from their own names. -/
theorem canonical_of_decode {t : Tree} {c : Change} (h : decode t = .ok c) :
    ColumnType.ofName c.before.type.name = c.before.type ∧
      ColumnType.ofName c.after.type.name = c.after.type := by
  have blank : ColumnType.ofName ColumnType.string.name = .string := ColumnType.ofName_name rfl
  refine Format.decode_induction (f := format)
    (P := fun c => ColumnType.ofName c.before.type.name = c.before.type ∧
      ColumnType.ofName c.after.type.name = c.after.type) ?_ ⟨blank, blank⟩ h
  intro key t a b canonical read
  replace read : put key t a = .ok b := read
  unfold put at read
  split at read
  · obtain ⟨name, -, read⟩ := bind_eq_ok_iff.1 read
    cases read
    exact canonical
  · obtain ⟨attributes, -, read⟩ := bind_eq_ok_iff.1 read
    cases read
    exact canonical
  · obtain ⟨before, decoded, read⟩ := bind_eq_ok_iff.1 read
    cases read
    exact ⟨Column.canonical_of_decode decoded, canonical.2⟩
  · obtain ⟨after, decoded, read⟩ := bind_eq_ok_iff.1 read
    cases read
    exact ⟨canonical.1, Column.canonical_of_decode decoded⟩
  · cases read
    exact canonical

end Change

namespace Rename

/-- A rename is read back if its column is. -/
theorem Abridged.readsAs {r : Rename} {v : Value} (h : r.Abridged v)
    (column : r.column.IsReadable) : v.ReadsAs decode r := by
  obtain ⟨hc⟩ := h
  refine Format.Leads.readsAs ?_ (.refl _ : Abridges [] _ _) rfl (by decide) (by decide) (by simp)
  exact .cons (string_readsAs r.oldName) rfl (by simp) <|
    .cons (hc.readsAs column) rfl (by simp) rfl

theorem abridged_toJson (r : Rename) : r.Abridged r.toJson := .mk r.column.abridged_toJson

/-- The type of a rename that was read is read from its own name. -/
theorem canonical_of_decode {t : Tree} {r : Rename} (h : decode t = .ok r) :
    ColumnType.ofName r.column.type.name = r.column.type := by
  have blank : ColumnType.ofName ColumnType.string.name = .string := ColumnType.ofName_name rfl
  refine Format.decode_induction (f := format)
    (P := fun r => ColumnType.ofName r.column.type.name = r.column.type) ?_ blank h
  intro key t a b canonical read
  replace read : put key t a = .ok b := read
  unfold put at read
  split at read
  · obtain ⟨name, -, read⟩ := bind_eq_ok_iff.1 read
    cases read
    exact canonical
  · obtain ⟨column, decoded, read⟩ := bind_eq_ok_iff.1 read
    cases read
    exact Column.canonical_of_decode decoded
  · cases read
    exact canonical

end Rename

/-! ## Diffs -/

namespace TableDiff

/-- The members that may be left out, with the values they have then. -/
def optional : List (String × Value) := [
  ("new_name", .null),
  ("added", .array []),
  ("removed", .array []),
  ("changed", .array []),
  ("renamed", .array [])]

/-- The JSON form of a diff, with members left out, of it and of its columns. -/
inductive Abridged (d : TableDiff) : Value → Prop
  | mk {added removed changed renamed : List Value} {ms : List (String × Value)} :
    List.Forall₂ Column.Abridged d.added added → List.Forall₂ Column.Abridged d.removed removed →
    List.Forall₂ Change.Abridged d.changed changed →
    List.Forall₂ Rename.Abridged d.renamed renamed →
    Abridges optional ms [
      ("name", .string d.name),
      ("new_name", .option .string d.newName),
      ("added", .array added),
      ("removed", .array removed),
      ("changed", .array changed),
      ("renamed", .array renamed)] →
    Abridged d (.object ms)

theorem abridged_toJson (d : TableDiff) : d.Abridged d.toJson := by
  refine .mk ?_ ?_ ?_ ?_ (.refl _)
  all_goals refine List.forall₂_map_right_iff.2 (List.forall₂_same.2 fun x _ => x.abridged_toJson)

/-- A property of all columns of a diff, part by part. -/
theorem forall_mem_columns_iff {d : TableDiff} {P : Column → Prop} : (∀ c ∈ d.columns, P c) ↔
    (∀ c ∈ d.added, P c) ∧ (∀ c ∈ d.removed, P c) ∧
      (∀ k ∈ d.changed, P k.before ∧ P k.after) ∧ ∀ r ∈ d.renamed, P r.column := by
  simp only [columns, List.forall_mem_append, List.forall_mem_flatMap, List.forall_mem_map,
    List.forall_mem_cons, List.not_mem_nil, and_assoc]
  simp

/-- A diff is read back, also with members left out. -/
theorem Abridged.readsAs {d : TableDiff} {v : Value} (h : d.Abridged v)
    (readable : ∀ c ∈ d.columns, c.IsReadable) : v.ReadsAs decode d := by
  obtain ⟨inAdded, inRemoved, inChanged, inRenamed⟩ := forall_mem_columns_iff.1 readable
  obtain ⟨hadded, hremoved, hchanged, hrenamed, abridges⟩ := h
  refine Format.Leads.readsAs ?_ abridges rfl (by decide) (by decide) (by simp [optional, format])
  refine .cons (string_readsAs d.name) rfl ?_ <|
    .cons (option_string_readsAs _) rfl ?_ <|
    .cons (list_readsAs hadded fun c hc v h => h.readsAs (inAdded c hc)) rfl ?_ <|
    .cons (list_readsAs hremoved fun c hc v h => h.readsAs (inRemoved c hc)) rfl ?_ <|
    .cons (list_readsAs hchanged fun k hk v h => h.readsAs (inChanged k hk).1 (inChanged k hk).2)
      rfl ?_ <|
    .cons (list_readsAs hrenamed fun r hr v h => h.readsAs (inRenamed r hr)) rfl ?_ rfl
  -- a part whose list of values is empty has no entries
  all_goals simp [optional, format, option_eq_null_iff]
  · exact eq_nil_of_forall₂ hadded
  · exact eq_nil_of_forall₂ hremoved
  · exact eq_nil_of_forall₂ hchanged
  · exact eq_nil_of_forall₂ hrenamed

/-! ## Types that were read -/

/-- The types of a diff that was read are read from their own names. -/
theorem canonical_of_decode {t : Tree} {d : TableDiff} (h : decode t = .ok d) :
    ∀ c ∈ d.columns, ColumnType.ofName c.type.name = c.type := by
  refine Format.decode_induction (f := format)
    (P := fun d => ∀ c ∈ d.columns, ColumnType.ofName c.type.name = c.type) ?_
    (by simp [columns, format]) h
  intro key t a b canonical read
  rw [forall_mem_columns_iff] at canonical ⊢
  obtain ⟨added, removed, changed, renamed⟩ := canonical
  replace read : put key t a = .ok b := read
  unfold put at read
  split at read
  · obtain ⟨name, -, read⟩ := bind_eq_ok_iff.1 read
    cases read
    exact ⟨added, removed, changed, renamed⟩
  · obtain ⟨name, -, read⟩ := bind_eq_ok_iff.1 read
    cases read
    exact ⟨added, removed, changed, renamed⟩
  · obtain ⟨columns, list, read⟩ := bind_eq_ok_iff.1 read
    cases read
    refine ⟨fun c hc => ?_, removed, changed, renamed⟩
    obtain ⟨t, ht⟩ := exists_of_mem_list list c hc
    exact Column.canonical_of_decode ht
  · obtain ⟨columns, list, read⟩ := bind_eq_ok_iff.1 read
    cases read
    refine ⟨added, fun c hc => ?_, changed, renamed⟩
    obtain ⟨t, ht⟩ := exists_of_mem_list list c hc
    exact Column.canonical_of_decode ht
  · obtain ⟨changes, list, read⟩ := bind_eq_ok_iff.1 read
    cases read
    refine ⟨added, removed, fun k hk => ?_, renamed⟩
    obtain ⟨t, ht⟩ := exists_of_mem_list list k hk
    exact Change.canonical_of_decode ht
  · obtain ⟨renames, list, read⟩ := bind_eq_ok_iff.1 read
    cases read
    refine ⟨added, removed, changed, fun k hk => ?_⟩
    obtain ⟨t, ht⟩ := exists_of_mem_list list k hk
    exact Rename.canonical_of_decode ht
  · cases read
    exact ⟨added, removed, changed, renamed⟩

/-- **A diff is read back from its JSON text, and from every text without some of the optional
members that have their default value there**, if no default is a floating-point number and the
types are spelled by their names, as those of every diff that was read are. -/
theorem ofText_abridged :
    (∀ d : TableDiff, (∀ c ∈ d.columns, c.HasExactDefault) →
      (∀ c ∈ d.columns, ColumnType.ofName c.type.name = c.type) →
      d.Abridged d.toJson ∧ ∀ v, d.Abridged v → ofText v.text = .ok d) ∧
    ∀ text d, ofText text = .ok d → ∀ c ∈ d.columns, ColumnType.ofName c.type.name = c.type := by
  refine ⟨fun d exact canonical => ⟨d.abridged_toJson, fun v h => ?_⟩, fun text d h => ?_⟩
  · exact (h.readsAs fun c hc => ⟨exact c hc, canonical c hc⟩).read_text
  · exact canonical_of_decode (decode_of_read h)

/-- A column whose name has to be escaped, and whose default is an explicit null. -/
def quoted : TableDiff where
  name := "orders"
  added := [{ name := "no. \"1\"", type := .string, length := some 20, default := some .null }]

/-- Of the added column four members are left, of the diff itself two. -/
def quotedForm : Value :=
  .object [
    ("name", .string "orders"),
    ("added", .array [.object [
      ("name", .string "no. \"1\""),
      ("type", .string "string"),
      ("length", .integer 20),
      ("default", .string "null")]])]

theorem abridged_quotedForm : quoted.Abridged quotedForm := by
  -- the column keeps its name, type, length and default, the diff its name and its added columns
  refine .mk (.cons (.mk (.keep _ <| .keep _ <| .keep _ <| .drop ?_ <| .drop ?_ <| .drop ?_ <|
    .drop ?_ <| .drop ?_ <| .drop ?_ <| .keep _ <| .drop ?_ .nil)) .nil) .nil .nil .nil
    (.keep _ <| .drop ?_ <| .keep _ <| .drop ?_ <| .drop ?_ <| .drop ?_ .nil)
  all_goals simp [Column.optional, optional, quoted, Value.option]

/-- The null that is a default of its own is told from the one that is none. -/
theorem ofText_abridged_quoted :
    (∀ c ∈ quoted.columns, c.HasExactDefault) ∧
    (∀ c ∈ quoted.columns, ColumnType.ofName c.type.name = c.type) ∧
    quoted.Abridged quotedForm ∧
    quotedForm.text = "\x7b\"name\":\"orders\",\"added\":[\x7b\"name\":\"no. \\\"1\\\"\"," ++
      "\"type\":\"string\",\"length\":20,\"default\":\"null\"\x7d]\x7d" ∧
    ofText quotedForm.text = .ok quoted := by
  have exact : ∀ c ∈ quoted.columns, c.HasExactDefault := by decide
  have canonical : ∀ c ∈ quoted.columns, ColumnType.ofName c.type.name = c.type := by
    decide +kernel
  exact ⟨exact, canonical, abridged_quotedForm, by decide +kernel,
    (ofText_abridged.1 quoted exact canonical).2 quotedForm abridged_quotedForm⟩

end TableDiff

end TsqlAlter
