import TsqlAlter.Plan.Platform
import TsqlAlter.Proofs.TypeText

/-!
# Types of a size

The type of a string or a binary has a size, which is a count as long as the length of the column
allows it. A string takes two for each of its characters, up to 4000; a binary one for each byte, up
to 8000. Beyond that the type is one without a limit: of the greatest size, `MAX`, or a large object
on the oldest release, which does not know `MAX`.

The server takes `MAX` for types of variable length only. A fixed type is given up for a large one
when a string is longer than 4000, and on the oldest release always; in the remaining cases it is
kept, with a size that the server refuses.

`effectiveLength` is the length that counts, `IsLegal` says which types a release takes, and
`OverflowsFixed` is the condition under which a column gets another one.

Results:
* `ofColumn_string`, `ofColumn_binary`: the type by the length that counts.
* `isLegal_iff_not_overflowsFixed`: which columns have a type that the server takes.

Left out: limits on the length of a row.
-/

namespace TsqlAlter

namespace Release

theorem knowsMax_eq_false_iff (r : Release) : r.knowsMax = false ↔ r = sql2000 := by
  cases r <;> decide

end Release

namespace Column

/-- The length that counts. Without a length it is 255; so it is for a binary of length zero. -/
def effectiveLength (c : Column) : Nat :=
  match c.length with
  | none => 255
  | some n => if c.type = .binary ∧ n = 0 then 255 else n.toNat

/-- A length that is not zero counts. -/
theorem effectiveLength_of_pos {c : Column} {n : UInt32} (h : c.length = some n) (pos : 1 ≤ n) :
    c.effectiveLength = n.toNat := by
  have nonzero : n ≠ 0 := by
    rintro rfl
    exact absurd pos (by decide)
  simp [effectiveLength, h, nonzero]

theorem effectiveLength_string {c : Column} (h : c.type = .string) :
    c.effectiveLength = (c.length.map UInt32.toNat).getD 255 := by
  unfold effectiveLength
  cases c.length <;> simp [h]

theorem effectiveLength_binary {c : Column} (h : c.type = .binary) :
    c.effectiveLength = if (c.length.map UInt32.toNat).getD 255 = 0 then 255
      else (c.length.map UInt32.toNat).getD 255 := by
  unfold effectiveLength
  cases c.length <;> simp [h, ← UInt32.toNat_inj]

end Column

namespace SqlType

variable {r : Release} {c : Column}

/-! ## The type by the length -/

/-- A type of characters, of fixed or of variable length. -/
def chars (fixed : Bool) (size : Size) : SqlType := if fixed then nchar size else nvarchar size

/-- A type of bytes, of fixed or of variable length. -/
def bytes (fixed : Bool) (size : Size) : SqlType := if fixed then binary size else varbinary size

/-- **The type of a string**: of the doubled length up to a length of 2000, or of 255 for none at
all; beyond, a large text, unless a fixed one is to hold up to 4000. -/
theorem ofColumn_string (r : Release) (h : c.type = .string) :
    ofColumn r c = .ok (
      if c.effectiveLength ≤ 2000 then
        chars c.fixed (.count (if c.effectiveLength = 0 then 255 else 2 * c.effectiveLength))
      else if c.fixed = true ∧ r ≠ .sql2000 ∧ c.effectiveLength ≤ 4000 then nchar .max
      else largeText r) := by
  have counted : ofColumn r c = .ok (ofString r c.length c.fixed) := by simp [ofColumn, h]
  rw [counted, Column.effectiveLength_string h]
  unfold ofString defaultLength stringLimit
  dsimp only
  generalize (c.length.map UInt32.toNat).getD 255 = n
  congr 1
  by_cases small : n ≤ 2000
  · rw [if_neg (by omega), if_pos small]
    by_cases zero : n = 0
    · rw [if_pos zero, if_pos zero]
      rfl
    · rw [if_neg zero, if_pos (by omega), if_neg zero]
      rfl
  · rw [if_neg small]
    by_cases large : 4000 < n
    · rw [if_pos large, if_neg (by omega)]
    · rw [if_neg large, if_neg (by omega), if_neg (by omega)]
      cases hr : r.knowsMax with
      | true =>
        have known : r ≠ .sql2000 := (Release.knowsMax_iff r).1 hr
        have middle : n ≤ 4000 := by omega
        cases c.fixed <;> simp [known, middle, largeText, hr]
      | false =>
        have old : r = .sql2000 := (Release.knowsMax_eq_false_iff r).1 hr
        simp [old]

/-- **The type of a binary**: of its length up to 8000; beyond, a large binary, unless a fixed one
is asked for. -/
theorem ofColumn_binary (r : Release) (h : c.type = .binary) :
    ofColumn r c = .ok (
      if c.effectiveLength ≤ 8000 then bytes c.fixed (.count c.effectiveLength)
      else if c.fixed = true ∧ r ≠ .sql2000 then binary .max
      else largeBinary r) := by
  have counted : ofColumn r c = .ok (ofBinary r c.length c.fixed) := by simp [ofColumn, h]
  rw [counted, Column.effectiveLength_binary h]
  unfold ofBinary defaultLength binaryLimit
  dsimp only
  generalize (c.length.map UInt32.toNat).getD 255 = n
  congr 1
  by_cases zero : n = 0
  · rw [if_pos zero, if_pos zero, if_pos (show 255 ≤ 8000 by decide)]
    rfl
  rw [if_neg zero, if_neg zero]
  by_cases small : n ≤ 8000
  · rw [if_pos small, if_pos small]
    rfl
  rw [if_neg small, if_neg small]
  cases hr : r.knowsMax with
  | true =>
    have known : r ≠ .sql2000 := (Release.knowsMax_iff r).1 hr
    cases c.fixed <;> simp [known, largeBinary, hr]
  | false =>
    have old : r = .sql2000 := (Release.knowsMax_eq_false_iff r).1 hr
    simp [old]

theorem largeText_eq (r : Release) :
    largeText r = if r = .sql2000 then ntext else nvarchar .max := by
  cases r <;> rfl

theorem largeBinary_eq (r : Release) :
    largeBinary r = if r = .sql2000 then image else varbinary .max := by
  cases r <;> rfl

/-! ## Types that the server takes -/

/-- The types that a release takes for strings and for binaries. -/
inductive IsLegal (r : Release) : ColumnType → SqlType → Prop
  | nvarchar {n : Nat} (pos : 1 ≤ n) (le : n ≤ 4000) : IsLegal r .string (.nvarchar (.count n))
  | nchar {n : Nat} (pos : 1 ≤ n) (le : n ≤ 4000) : IsLegal r .string (.nchar (.count n))
  | nvarcharMax (known : r ≠ .sql2000) : IsLegal r .string (.nvarchar .max)
  | ntext (old : r = .sql2000) : IsLegal r .string .ntext
  | varbinary {n : Nat} (pos : 1 ≤ n) (le : n ≤ 8000) : IsLegal r .binary (.varbinary (.count n))
  | binary {n : Nat} (pos : 1 ≤ n) (le : n ≤ 8000) : IsLegal r .binary (.binary (.count n))
  | varbinaryMax (known : r ≠ .sql2000) : IsLegal r .binary (.varbinary .max)
  | image (old : r = .sql2000) : IsLegal r .binary .image

theorem isLegal_chars {n : Nat} (pos : 1 ≤ n) (le : n ≤ 4000) (fixed : Bool) :
    IsLegal r .string (chars fixed (.count n)) := by
  cases fixed with
  | false => exact .nvarchar pos le
  | true => exact .nchar pos le

theorem isLegal_bytes {n : Nat} (pos : 1 ≤ n) (le : n ≤ 8000) (fixed : Bool) :
    IsLegal r .binary (bytes fixed (.count n)) := by
  cases fixed with
  | false => exact .varbinary pos le
  | true => exact .binary pos le

theorem isLegal_largeText (r : Release) : IsLegal r .string (largeText r) := by
  rw [largeText_eq]
  split
  · next old => exact .ntext old
  · next known => exact .nvarcharMax known

theorem isLegal_largeBinary (r : Release) : IsLegal r .binary (largeBinary r) := by
  rw [largeBinary_eq]
  split
  · next old => exact .image old
  · next known => exact .varbinaryMax known

/-- `MAX` is no size of a fixed type. -/
theorem not_isLegal_max {type : ColumnType} {t : SqlType} (h : t = .nchar .max ∨ t = .binary .max) :
    ¬IsLegal r type t := by
  rintro ⟨⟩ <;> simp at h

end SqlType

/-- The column is fixed and too long for a count, and its fixed type is not given up. -/
def Column.OverflowsFixed (c : Column) (r : Release) : Prop :=
  c.fixed = true ∧ r ≠ .sql2000 ∧
    (c.type = .string ∧ 2000 < c.effectiveLength ∧ c.effectiveLength ≤ 4000 ∨
      c.type = .binary ∧ 8000 < c.effectiveLength)

namespace SqlType

variable {r : Release} {c : Column}

theorem exists_string (r : Release) (h : c.type = .string) : ∃ t, ofColumn r c = .ok t ∧
    (IsLegal r c.type t ∧ ¬c.OverflowsFixed r ∨
      (t = .nchar .max ∨ t = .binary .max) ∧ c.OverflowsFixed r) := by
  rw [ofColumn_string r h]
  refine ⟨_, rfl, ?_⟩
  unfold Column.OverflowsFixed
  rw [h]
  split
  · next small =>
    refine .inl ⟨isLegal_chars ?_ ?_ _, by grind⟩
    · split <;> omega
    · split <;> omega
  · next large =>
    split
    · next overflows =>
      obtain ⟨fixed, known, middle⟩ := overflows
      exact .inr ⟨.inl rfl, fixed, known, .inl ⟨rfl, by omega, middle⟩⟩
    · next fits => exact .inl ⟨isLegal_largeText r, by grind⟩

theorem exists_binary (r : Release) (h : c.type = .binary) : ∃ t, ofColumn r c = .ok t ∧
    (IsLegal r c.type t ∧ ¬c.OverflowsFixed r ∨
      (t = .nchar .max ∨ t = .binary .max) ∧ c.OverflowsFixed r) := by
  have pos : 1 ≤ c.effectiveLength := by
    rw [Column.effectiveLength_binary h]
    split <;> omega
  rw [ofColumn_binary r h]
  refine ⟨_, rfl, ?_⟩
  unfold Column.OverflowsFixed
  rw [h]
  split
  · next small => exact .inl ⟨isLegal_bytes pos small _, by grind⟩
  · next large =>
    split
    · next overflows =>
      exact .inr ⟨.inr rfl, overflows.1, overflows.2, .inr ⟨rfl, by omega⟩⟩
    · next fits => exact .inl ⟨isLegal_largeBinary r, by grind⟩

/-- **A string or a binary has a type**, and one that the server takes unless it overflows. -/
theorem exists_sized (r : Release) (sized : c.type = .string ∨ c.type = .binary) :
    ∃ t, ofColumn r c = .ok t ∧ (IsLegal r c.type t ∧ ¬c.OverflowsFixed r ∨
      (t = .nchar .max ∨ t = .binary .max) ∧ c.OverflowsFixed r) :=
  sized.elim (exists_string r) (exists_binary r)

end SqlType

namespace Release

/-- **Which columns have a type that the server takes.** A string or a binary of any length has a
type, and it is one that the release takes, `MAX` included, exactly if the column does not overflow
a fixed type. If it does, the type is a fixed one of the size `MAX`. -/
theorem isLegal_iff_not_overflowsFixed (r : Release) {c : Column}
    (sized : c.type = .string ∨ c.type = .binary) :
    ∃ t, r.dialect.typeText c = .ok t.text ∧
      (SqlType.IsLegal r c.type t ↔ ¬c.OverflowsFixed r) ∧
      (c.OverflowsFixed r → t = .nchar .max ∨ t = .binary .max) := by
  obtain ⟨t, typed, ⟨legal, fits⟩ | ⟨max, overflows⟩⟩ := SqlType.exists_sized r sized
  · exact ⟨t, typeText_of_ofColumn typed, iff_of_true legal fits,
      fun overflows => absurd overflows fits⟩
  · exact ⟨t, typeText_of_ofColumn typed,
      iff_of_false (SqlType.not_isLegal_max max) (not_not_intro overflows), fun _ => max⟩

/-- A string of fixed length in the middle range. -/
def fixedNote : Column where
  name := "A"
  type := .string
  length := some 3000
  fixed := true

/-- A binary of fixed length that is too long for a count. -/
def fixedImage : Column where
  name := "A"
  type := .binary
  length := some 9000
  fixed := true

theorem isLegal_fixedNote_sql2000 :
    (fixedNote.type = .string ∨ fixedNote.type = .binary) ∧
    ∃ t, sql2000.dialect.typeText fixedNote = .ok t.text ∧ SqlType.IsLegal sql2000 .string t := by
  have sized : fixedNote.type = .string ∨ fixedNote.type = .binary := .inl rfl
  obtain ⟨t, typed, legal, -⟩ := isLegal_iff_not_overflowsFixed sql2000 sized
  exact ⟨sized, t, typed, legal.2 fun overflows => overflows.2.1 rfl⟩

/-- **Columns with a type that the server refuses.** The string is added with the type
`NCHAR(MAX)`, and the binary with `BINARY(MAX)`. A longer string is no fixed one any more. -/
theorem not_isLegal_fixedNote :
    (Platform.ofRelease sql2008).compile { name := "T", added := [fixedNote] } =
      .ok [.addColumn "T" ⟨"A", "NCHAR(MAX)", false, none, true⟩ none] ∧
    (¬∃ t, sql2008.dialect.typeText fixedNote = .ok t.text ∧
      SqlType.IsLegal sql2008 .string t) ∧
    (Platform.ofRelease sql2008).compile { name := "T", added := [fixedImage] } =
      .ok [.addColumn "T" ⟨"A", "BINARY(MAX)", false, none, true⟩ none] ∧
    (¬∃ t, sql2008.dialect.typeText fixedImage = .ok t.text ∧
      SqlType.IsLegal sql2008 .binary t) ∧
    sql2008.dialect.typeText { fixedNote with length := some 5000 } = .ok "NVARCHAR(MAX)" := by
  have note : sql2008.dialect.typeText fixedNote = .ok (SqlType.nchar .max).text := rfl
  have image : sql2008.dialect.typeText fixedImage = .ok (SqlType.binary .max).text := rfl
  refine ⟨rfl, ?_, rfl, ?_, rfl⟩
  · rintro ⟨t, typed, legal⟩
    cases SqlType.text_injective (Except.ok.inj (note.symm.trans typed))
    exact SqlType.not_isLegal_max (.inl rfl) legal
  · rintro ⟨t, typed, legal⟩
    cases SqlType.text_injective (Except.ok.inj (image.symm.trans typed))
    exact SqlType.not_isLegal_max (.inr rfl) legal

end Release

end TsqlAlter
