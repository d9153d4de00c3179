import TsqlAlter.Proofs.LetterCase
import TsqlAlter.Proofs.SizedType
import TsqlAlter.Sql.Native

/-!
# Native types of columns

The server tells the type of a column by its keyword, and the keyword has a logical type. What a
release declares a column with is recognised in this way, and the logical type recognised is
declared with the same keyword on that release: a keyword that only some releases use stands for a
type that these releases declare so (`SqlType.IsUsedBy`).

`native` is the logical type of a keyword, `isFixed` says that the keyword is one of fixed length.

Results:
* `SqlType.isUsedBy_of_ofColumn`: a release declares columns with types of its own only.
* `SqlType.exists_ofColumn_native`: a type that a release uses is declared with its keyword again.
* `Release.recognises_keyword`: the keyword of a declared column is recognised in any case, and
  declared again.

Left out: keywords that no column is declared with, such as `MONEY`. They are recognised too, but no
column that is recognised by them is declared with them again.
-/

namespace TsqlAlter

open Text

namespace SqlType

/-- The keyword that a type text begins with, up to the parenthesis. -/
def keywordOf (text : String) : String := String.ofList (text.toList.takeWhile (· != '('))

theorem keywordOf_text (t : SqlType) : keywordOf t.text = t.keyword := by
  rw [keywordOf, takeWhile_text, String.ofList_toList]

/-- The logical type that the keyword of a type stands for. -/
def native : SqlType → ColumnType
  | smallint => .smallint
  | int => .integer
  | bigint => .bigint
  | bit => .boolean
  | float => .float
  | numeric _ _ => .decimal
  | nchar _ => .string
  | nvarchar _ => .string
  | binary _ => .binary
  | varbinary _ => .binary
  | ntext => .text
  | image => .blob
  | uniqueidentifier => .guid
  | date => .date
  | time => .time
  | datetime => .datetime
  | datetime2 => .datetime
  | datetimeoffset => .datetimetz

/-- The keyword is that of a type of fixed length. -/
def isFixed : SqlType → Bool
  | nchar _ => true
  | binary _ => true
  | _ => false

/-- The type is one that the release declares columns with. -/
def IsUsedBy (r : Release) : SqlType → Prop
  | ntext => r.knowsMax = false
  | image => r.knowsMax = false
  | datetime => r.knowsTemporal = false
  | date => r.knowsTemporal = true
  | time => r.knowsTemporal = true
  | datetime2 => r.knowsTemporal = true
  | datetimeoffset => r.knowsTemporal = true
  | _ => True

variable {r : Release} {c : Column} {t : SqlType}

/-! ## Keywords -/

theorem isFixed_iff : t.isFixed = true ↔ t.keyword = "NCHAR" ∨ t.keyword = "BINARY" := by
  cases t <;> simp [isFixed, keyword]

/-- A keyword is recognised in any case of its letters. -/
theorem ofNative?_of_sameUpToCase {name : String} (same : SameUpToCase name t.keyword) :
    ColumnType.ofNative? name = some t.native := by
  rw [ColumnType.ofNative?, lower_eq_iff.2 same]
  cases t <;> simp only [keyword, native] <;> decide +kernel

/-! ## The types that a release uses -/

theorem isUsedBy_chars (r : Release) (fixed : Bool) (size : Size) :
    IsUsedBy r (chars fixed size) := by
  cases fixed <;> trivial

theorem isUsedBy_bytes (r : Release) (fixed : Bool) (size : Size) :
    IsUsedBy r (bytes fixed size) := by
  cases fixed <;> trivial

theorem isUsedBy_largeText (r : Release) : IsUsedBy r (largeText r) := by
  unfold largeText
  cases known : r.knowsMax
  · exact known
  · trivial

theorem isUsedBy_largeBinary (r : Release) : IsUsedBy r (largeBinary r) := by
  unfold largeBinary
  cases known : r.knowsMax
  · exact known
  · trivial

theorem temporal_eq (known : r.knowsTemporal = true) : temporal r t = t := by
  rw [temporal, known, if_pos rfl]

theorem temporal_eq_datetime (unknown : r.knowsTemporal = false) : temporal r t = datetime := by
  rw [temporal, unknown, if_neg Bool.false_ne_true]

theorem isUsedBy_temporal (own : r.knowsTemporal = true → IsUsedBy r t) :
    IsUsedBy r (temporal r t) := by
  cases known : r.knowsTemporal with
  | true => exact temporal_eq known ▸ own known
  | false => exact temporal_eq_datetime known ▸ known

/-- **A release declares columns with the types that it uses.** -/
theorem isUsedBy_of_ofColumn (typed : ofColumn r c = .ok t) : IsUsedBy r t := by
  cases type : c.type with
  | string =>
    rw [ofColumn_string r type] at typed
    cases typed
    split
    · exact isUsedBy_chars r _ _
    · split
      · trivial
      · exact isUsedBy_largeText r
  | binary =>
    rw [ofColumn_binary r type] at typed
    cases typed
    split
    · exact isUsedBy_bytes r _ _
    · split
      · trivial
      · exact isUsedBy_largeBinary r
  | text | json =>
    rw [ofColumn, type] at typed
    cases typed
    exact isUsedBy_largeText r
  | blob =>
    rw [ofColumn, type] at typed
    cases typed
    exact isUsedBy_largeBinary r
  | date | time | datetime | datetimetz =>
    rw [ofColumn, type] at typed
    cases typed
    exact isUsedBy_temporal id
  | unknown name =>
    rw [ofColumn_unknown type] at typed
    cases typed
  | _ =>
    rw [ofColumn, type] at typed
    cases typed
    trivial

/-- **A type that a release uses is declared with its keyword again**, from the logical type that
the keyword stands for. -/
theorem exists_ofColumn_native (used : IsUsedBy r t) (type : c.type = t.native)
    (length : c.length = none) (fixed : c.fixed = t.isFixed) :
    ∃ u, ofColumn r c = .ok u ∧ u.keyword = t.keyword := by
  unfold ofColumn
  rw [type, length, fixed]
  cases t with
  | ntext => exact ⟨_, rfl, congrArg keyword (if_neg (Bool.eq_false_iff.1 used))⟩
  | image => exact ⟨_, rfl, congrArg keyword (if_neg (Bool.eq_false_iff.1 used))⟩
  | datetime => exact ⟨_, rfl, congrArg keyword (temporal_eq_datetime used)⟩
  | date | time | datetime2 | datetimeoffset =>
    exact ⟨_, rfl, congrArg keyword (temporal_eq used)⟩
  | _ => exact ⟨_, rfl, rfl⟩

end SqlType

namespace Release

open SqlType

/-- **The keyword of a declared column is recognised.** A column of a known type has a type text.
The keyword that the text begins with is recognised in any case of its ASCII letters, as always the
same logical type; a column of this type that has no length, and is fixed exactly if the keyword is
`NCHAR` or `BINARY`, has a type text with the same keyword on the same release. -/
theorem recognises_keyword (r : Release) {c : Column} (known : c.type.isKnown = true) :
    ∃ text, r.dialect.typeText c = .ok text ∧
      ∃ t, (∀ name, SameUpToCase name (keywordOf text) → ColumnType.ofNative? name = some t) ∧
        ∀ c' : Column, c'.type = t → c'.length = none →
          (c'.fixed = true ↔ keywordOf text = "NCHAR" ∨ keywordOf text = "BINARY") →
          ∃ text', r.dialect.typeText c' = .ok text' ∧ keywordOf text' = keywordOf text := by
  obtain ⟨u, typed⟩ := exists_ofColumn_of_isKnown r known
  refine ⟨u.text, typeText_of_ofColumn typed, u.native, fun name same => ?_,
    fun c' type length fixed => ?_⟩
  · rw [keywordOf_text] at same
    exact ofNative?_of_sameUpToCase same
  · rw [keywordOf_text, ← isFixed_iff, ← Bool.eq_iff_iff] at fixed
    obtain ⟨u', typed', same⟩ :=
      exists_ofColumn_native (isUsedBy_of_ofColumn typed) type length fixed
    exact ⟨u'.text, typeText_of_ofColumn typed', by rw [keywordOf_text, keywordOf_text, same]⟩

/-- The oldest release has a large text in the place of a long string, fixed or not. -/
theorem recognises_keyword_fixedNote :
    fixedNote.type.isKnown = true ∧ sql2000.dialect.typeText fixedNote = .ok "NTEXT" ∧
    ColumnType.ofNative? "nText" = some .text ∧
    ∃ text, sql2000.dialect.typeText { name := "B", type := .text } = .ok text ∧
      keywordOf text = "NTEXT" := by
  have known : fixedNote.type.isKnown = true := rfl
  have large : sql2000.dialect.typeText fixedNote = .ok "NTEXT" := rfl
  have whole : keywordOf "NTEXT" = "NTEXT" := by decide +kernel
  have spelled : SameUpToCase "nText" (keywordOf "NTEXT") := lower_eq_iff.1 (by decide +kernel)
  obtain ⟨text, typed, t, recognised, again⟩ := recognises_keyword sql2000 known
  cases large.symm.trans typed
  have native := recognised "nText" spelled
  have read : ColumnType.ofNative? "nText" = some .text := by decide +kernel
  cases read.symm.trans native
  rw [whole] at again
  exact ⟨known, large, read, again { name := "B", type := .text } rfl rfl (by decide)⟩

end Release

end TsqlAlter
