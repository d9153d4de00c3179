import TsqlAlter.Proofs.Defaults
import TsqlAlter.Proofs.Json.Records
import TsqlAlter.Proofs.TypeNames
import TsqlAlter.Schema.Json

/-!
# Columns and JSON

A column is read back from its JSON form, also without members that have their default value there.
A type is read back if it is spelled by its own name: every known type is, and an unknown one is
unless its name is another spelling of a known type. A default is read back if it is no
floating-point number.

`Column.optional` lists the members that may be left out, and `Column.Abridged` the values that are
left then. `Column.IsReadable` says which columns are read back.

Results:
* `DefaultValue.readsAs`: the null that is a default of its own is read back as itself.
* `Column.Abridged.readsAs`: a column is read back, also with members left out.
* `Column.canonical_of_decode`: the type of a column that was read is spelled by its own name.

Left out: floating-point defaults. One that is not finite has no JSON form to be read back from.
-/

namespace TsqlAlter

open Json Decoder

theorem ColumnType.readsAs {t : ColumnType} (canonical : ofName t.name = t) :
    t.toJson.ReadsAs decode t := by
  have back := map_readsAs (f := ofName) (string_readsAs t.name)
  rwa [canonical] at back

namespace DefaultValue

theorem toJson_ne_null (d : DefaultValue) : d.toJson ≠ .null := by
  cases d <;> exact Value.noConfusion

/-- A default other than a floating-point number is read back. -/
theorem readsAs {d : DefaultValue} (exact : d.isFloat = false) : d.toJson.ReadsAs decode d := by
  cases d with
  | null => exact bare_readsAs rfl
  | boolean b => exact carried_readsAs (map_readsAs (bool_readsAs b)) rfl
  | integer i => exact carried_readsAs (map_readsAs (int64_readsAs i)) rfl
  | float x => cases exact
  | string s => exact carried_readsAs (map_readsAs (string_readsAs s)) rfl
  | expression sql => exact carried_readsAs (map_readsAs (string_readsAs sql)) rfl

end DefaultValue

namespace Column

/-- The members that may be left out, with the values they have then. -/
def optional : List (String × Value) := [
  ("length", .null),
  ("precision", .null),
  ("scale", .null),
  ("fixed", .bool false),
  ("nullable", .bool true),
  ("autoincrement", .bool false),
  ("collation", .null),
  ("default", .null),
  ("unsigned", .bool false)]

/-- The JSON form of a column, with members left out that say nothing new. -/
inductive Abridged (c : Column) : Value → Prop
  | mk {ms : List (String × Value)} : Abridges optional ms c.members → Abridged c (.object ms)

/-- A column is read back: its default is no floating-point number, its type is spelled by its
name. -/
structure IsReadable (c : Column) : Prop where
  exact : c.HasExactDefault
  canonical : ColumnType.ofName c.type.name = c.type

/-- The members of a column make it of the blank column, field by field. -/
theorem leads {c : Column} (readable : c.IsReadable) :
    format.Leads optional c format.blank c.members := by
  refine .cons (string_readsAs c.name) rfl ?_ <|
    .cons (ColumnType.readsAs readable.canonical) rfl ?_ <|
    .cons (option_readsAs fun n _ => ⟨Value.noConfusion, uint32_readsAs n⟩) rfl ?_ <|
    .cons (option_readsAs fun n _ => ⟨Value.noConfusion, uint8_readsAs n⟩) rfl ?_ <|
    .cons (option_readsAs fun n _ => ⟨Value.noConfusion, uint8_readsAs n⟩) rfl ?_ <|
    .cons (bool_readsAs c.fixed) rfl ?_ <|
    .cons (bool_readsAs c.nullable) rfl ?_ <|
    .cons (bool_readsAs c.autoincrement) rfl ?_ <|
    .cons (option_string_readsAs _) rfl ?_ <|
    .cons (option_readsAs fun d hd => ⟨d.toJson_ne_null, d.readsAs (readable.exact d hd)⟩) rfl ?_ <|
    .cons (bool_readsAs c.unsigned) rfl ?_ rfl
  -- the required members are not optional, the others then have what the blank column has
  all_goals simp [optional, format, option_eq_null_iff, Value.nat, DefaultValue.toJson_ne_null]

/-- A column is read back, also with members left out. -/
theorem Abridged.readsAs {c : Column} {v : Value} (h : c.Abridged v) (readable : c.IsReadable) :
    v.ReadsAs decode c := by
  obtain ⟨abridges⟩ := h
  exact (leads readable).readsAs abridges rfl (by decide) (by decide) (by simp [optional, format])

theorem abridged_toJson (c : Column) : c.Abridged c.toJson := .mk (.refl c.members)

/-! ## Types that were read -/

/-- A field changes the type to one that was spelled, or leaves it. -/
theorem type_of_put {key : String} {t : Tree} {a b : Column} (h : put key t a = .ok b) :
    b.type = a.type ∨ ∃ s, b.type = ColumnType.ofName s := by
  unfold put at h
  split at h
  case h_2 =>
    obtain ⟨type, read, h⟩ := bind_eq_ok_iff.1 h
    obtain ⟨s, -, rfl⟩ := map_eq_ok_iff.1 read
    cases h
    exact .inr ⟨s, rfl⟩
  case h_12 =>
    cases h
    exact .inl rfl
  all_goals
    obtain ⟨x, -, h⟩ := bind_eq_ok_iff.1 h
    cases h
    exact .inl rfl

/-- The type of a column that was read is read from its own name. -/
theorem canonical_of_decode {t : Tree} {c : Column} (h : decode t = .ok c) :
    ColumnType.ofName c.type.name = c.type := by
  have blank : ColumnType.ofName ColumnType.string.name = .string := ColumnType.ofName_name rfl
  refine Format.decode_induction (f := format)
    (P := fun c => ColumnType.ofName c.type.name = c.type) ?_ blank h
  intro key t a b canonical read
  rcases type_of_put read with same | ⟨s, spelled⟩
  · rw [same, canonical]
  · rw [spelled, ColumnType.ofName_name_ofName]

end Column

end TsqlAlter
