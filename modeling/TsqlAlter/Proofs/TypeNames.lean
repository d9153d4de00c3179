import TsqlAlter.Proofs.LetterCase
import TsqlAlter.Schema.ColumnType
import TsqlAlter.Sql.Native

/-!
# Names of logical types

A known type has its own name and may have others, and all of them are ASCII. A text names the type
if it spells one of these names in any case. Every other text names an unknown type, which keeps the
text as it is.

`Names` says which texts, in lower case, name which types.

Results:
* `mem_spellings_iff`: the spellings that are looked up are the names of the known types.
* `ofName_eq_of_names`, `exists_names_of_isKnown`: a text names a known type exactly if it spells
  one of its names.
* `ofName_normalises`: reading a name, what comes of its case and of its own name, and which texts
  name no known type.

Left out: names that the server uses. They are looked up apart (`Proofs/NativeTypes`).
-/

namespace TsqlAlter.ColumnType

open Text

/-- The names of types besides their own. -/
def aliases : List (String × ColumnType) := [
  ("int", integer), ("bool", boolean), ("numeric", decimal), ("double", float), ("clob", text),
  ("uuid", guid)]

/-- A name of a known type, in lower case. -/
inductive Names : String → ColumnType → Prop where
  | own {t : ColumnType} (known : t.isKnown = true) : Names t.name t
  | alias {name : String} {t : ColumnType} (listed : (name, t) ∈ aliases) : Names name t

variable {s name : String} {t : ColumnType}

/-! ## The spellings that are looked up -/

/-- The spellings that are looked up are the names of the known types. -/
theorem mem_spellings_iff : (name, t) ∈ spellings ↔ Names name t := by
  constructor
  · have named : ∀ entry ∈ spellings,
        entry ∈ aliases ∨ entry.2.isKnown = true ∧ entry.1 = entry.2.name := by decide
    intro h
    obtain listed | ⟨known, (own : name = t.name)⟩ := named (name, t) h
    · exact .alias listed
    · rw [own]
      exact .own known
  · rintro (known | listed)
    · cases t <;> first | (cases known; done) | decide
    · have spelled : ∀ entry ∈ aliases, entry ∈ spellings := by decide
      exact spelled _ listed

/-- A name is spelled in lower case and belongs to one type. -/
theorem Names.lookup (h : Names name t) : spellings.lookup (lower name) = some t := by
  have found : ∀ entry ∈ spellings, spellings.lookup (lower entry.1) = some entry.2 := by
    decide +kernel
  exact found (name, t) (mem_spellings_iff.2 h)

theorem Names.isKnown (h : Names name t) : t.isKnown = true := by
  have known : ∀ entry ∈ spellings, entry.2.isKnown = true := by decide
  exact known _ (mem_spellings_iff.2 h)

theorem Names.isAscii (h : Names name t) : isAscii name.toList = true := by
  have ascii : ∀ entry ∈ spellings, Text.isAscii entry.1.toList = true := by decide +kernel
  exact ascii _ (mem_spellings_iff.2 h)

/-! ## Which texts name a known type -/

/-- A text that spells a name of a known type names this type. -/
theorem ofName_eq_of_names (h : Names name t) (same : SameUpToCase s name) : ofName s = t := by
  rw [ofName, lower_eq_iff.2 same, h.lookup, Option.getD_some]

/-- A text that names a known type spells one of its names. -/
theorem exists_names_of_isKnown (h : (ofName s).isKnown = true) :
    ∃ name, Names name (ofName s) ∧ SameUpToCase s name := by
  cases found : spellings.lookup (lower s) with
  | none =>
    rw [ofName_eq_unknown found] at h
    cases h
  | some t =>
    have read : ofName s = t := by rw [ofName, found, Option.getD_some]
    have listed : (lower s, t) ∈ spellings := by
      obtain ⟨before, after, split, -⟩ := List.lookup_eq_some_iff.1 found
      rw [split]
      exact List.mem_append_right _ List.mem_cons_self
    rw [read]
    exact ⟨lower s, mem_spellings_iff.1 listed, sameUpToCase_lower s⟩

theorem isKnown_ofName_iff :
    (ofName s).isKnown = true ↔ ∃ name t, Names name t ∧ SameUpToCase s name := by
  constructor
  · intro h
    obtain ⟨name, names, same⟩ := exists_names_of_isKnown h
    exact ⟨name, _, names, same⟩
  · rintro ⟨name, t, names, same⟩
    rw [ofName_eq_of_names names same]
    exact names.isKnown

/-- A text that names no known type is kept. -/
theorem ofName_eq_unknown_of_isKnown (h : (ofName s).isKnown = false) : ofName s = unknown s := by
  refine ofName_eq_unknown (Option.eq_none_iff_forall_ne_some.2 fun t found => ?_)
  obtain ⟨key, listed⟩ := mem_of_lookup_eq_some found
  have read : ofName s = t := by rw [ofName, found, Option.getD_some]
  rw [read, (mem_spellings_iff.1 listed).isKnown] at h
  cases h

/-- A type that was named is named by its own name as well. -/
theorem ofName_name_ofName (s : String) : ofName (ofName s).name = ofName s := by
  cases known : (ofName s).isKnown with
  | true => exact ofName_name known
  | false =>
    have kept := ofName_eq_unknown_of_isKnown known
    rw [kept, name, kept]

/-- **Reading the name of a type.** A type that was named is named by its own name as well. Another
case of ASCII letters makes no other type of a known one. The type is unknown exactly if the text
spells no name of a known type in any case, as when it holds a character outside ASCII, and then it
keeps the text as it is; a text that spells a name of a known type names this type. -/
theorem ofName_normalises (s : String) :
    ofName (ofName s).name = ofName s ∧
    (∀ s', SameUpToCase s s' → (ofName s).isKnown = true → ofName s' = ofName s) ∧
    ((ofName s).isKnown = false ↔ ∀ name t, Names name t → ¬SameUpToCase s name) ∧
    ((ofName s).isKnown = false → ofName s = unknown s) ∧
    (∀ name t, Names name t → SameUpToCase s name → ofName s = t) ∧
    ((∃ c ∈ s.toList, 128 ≤ c.toNat) → ofName s = unknown s) := by
  have unknown_iff : (ofName s).isKnown = false ↔
      ∀ name t, Names name t → ¬SameUpToCase s name := by
    rw [← Bool.not_eq_true, isKnown_ofName_iff]
    simp only [not_exists, not_and]
  refine ⟨ofName_name_ofName s, fun s' same known => ?_, unknown_iff,
    ofName_eq_unknown_of_isKnown, fun name t names same => ofName_eq_of_names names same, ?_⟩
  · obtain ⟨name, names, spelled⟩ := exists_names_of_isKnown known
    refine ofName_eq_of_names names (lower_eq_iff.1 ?_)
    rw [← lower_eq_iff.2 same, lower_eq_iff.2 spelled]
  · rintro ⟨c, hc, outside⟩
    refine ofName_eq_unknown_of_isKnown (unknown_iff.2 fun name t names same => ?_)
    have ascii : isAscii s.toList = true := same.isAscii_eq.trans names.isAscii
    have inside := of_decide_eq_true (List.all_eq_true.1 ascii c hc)
    omega

/-- The long s is a small letter s to Unicode, but not here. -/
example : ofName "SmallInt" = smallint ∧ ofName "\u017FmallInt" = unknown "\u017FmallInt" := by
  decide +kernel

end TsqlAlter.ColumnType
