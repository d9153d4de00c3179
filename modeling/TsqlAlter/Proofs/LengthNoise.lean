import Mathlib.Data.ENat.Basic
import TsqlAlter.Proofs.Noise
import TsqlAlter.Proofs.SizedType

/-!
# Lengths that make no difference

The capacity of a type of strings or binaries is its size, and the types without a limit hold any
number of characters or bytes. A longer column never gets a smaller capacity, and none gets less
than its length. A change of the length means something to the server exactly if the type is another
one: it means nothing if both lengths count the same, or are beyond what is counted and are met by
the same large type.

`capacity` is how much a type holds, and `Resembles` says of two columns that their lengths make no
difference. `Resized` says that they differ in nothing else.

Results:
* `capacity_string`, `capacity_binary`: the capacity by the length that counts.
* `ofColumn_eq_iff_resembles`: which lengths lead to one type.
* `reduce?_resized_iff`: lengths are held, and a change of the length is dropped only if it makes no
  difference.

Left out: what becomes of a value that is too long for its new column. Rows are no matter here.
-/

namespace TsqlAlter

/-- How much a size lets in. -/
def Size.capacity : Size → ℕ∞
  | count n => n
  | max => ⊤

namespace SqlType

/-- How much a type of strings or binaries holds; the other types hold none. -/
def capacity : SqlType → ℕ∞
  | nchar size => size.capacity
  | nvarchar size => size.capacity
  | binary size => size.capacity
  | varbinary size => size.capacity
  | ntext => ⊤
  | image => ⊤
  | _ => 0

variable {r : Release} {c a b : Column} {t u : SqlType}

/-! ## Capacities -/

@[simp] theorem capacity_chars (fixed : Bool) (size : Size) :
    (chars fixed size).capacity = size.capacity := by
  cases fixed <;> rfl

@[simp] theorem capacity_bytes (fixed : Bool) (size : Size) :
    (bytes fixed size).capacity = size.capacity := by
  cases fixed <;> rfl

@[simp] theorem capacity_largeText (r : Release) : (largeText r).capacity = ⊤ := by
  cases r <;> rfl

@[simp] theorem capacity_largeBinary (r : Release) : (largeBinary r).capacity = ⊤ := by
  cases r <;> rfl

/-- The room for a length: so many for each up to a limit, and no bound beyond it. -/
def room (limit each n : ℕ) : ℕ∞ := if n ≤ limit then ((each * n : ℕ) : ℕ∞) else ⊤

theorem le_room {limit each : ℕ} (pos : 1 ≤ each) (n : ℕ) : (n : ℕ∞) ≤ room limit each n := by
  unfold room
  split
  · rw [Nat.cast_le]
    exact Nat.le_mul_of_pos_left n pos
  · exact le_top

theorem room_mono {limit each m n : ℕ} (h : m ≤ n) : room limit each m ≤ room limit each n := by
  unfold room
  by_cases hn : n ≤ limit
  · rw [if_pos hn, if_pos (h.trans hn), Nat.cast_le]
    exact Nat.mul_le_mul_left each h
  · rw [if_neg hn]
    exact le_top

/-- A string has room for two of each of its characters. -/
theorem capacity_string (h : c.type = .string) (pos : 1 ≤ c.effectiveLength)
    (typed : ofColumn r c = .ok t) : t.capacity = room 2000 2 c.effectiveLength := by
  rw [ofColumn_string r h, if_neg (Nat.ne_of_gt pos)] at typed
  cases typed
  unfold room
  split
  · exact capacity_chars ..
  · split
    · rfl
    · exact capacity_largeText r

/-- A binary has room for its bytes. -/
theorem capacity_binary (h : c.type = .binary) (typed : ofColumn r c = .ok t) :
    t.capacity = room 8000 1 c.effectiveLength := by
  rw [ofColumn_binary r h] at typed
  cases typed
  unfold room
  rw [Nat.one_mul]
  split
  · exact capacity_bytes ..
  · split
    · rfl
    · exact capacity_largeBinary r

/-- **A longer column has no smaller capacity**, and none has less than its length. -/
theorem capacity_mono (sized : a.type = .string ∨ a.type = .binary) (type : a.type = b.type)
    (pos : 1 ≤ a.effectiveLength) (le : a.effectiveLength ≤ b.effectiveLength)
    (typed : ofColumn r a = .ok t) (typed' : ofColumn r b = .ok u) :
    (a.effectiveLength : ℕ∞) ≤ t.capacity ∧ t.capacity ≤ u.capacity := by
  rcases sized with string | binary
  · rw [capacity_string string pos typed, capacity_string (type ▸ string) (pos.trans le) typed']
    exact ⟨le_room (by decide) _, room_mono le⟩
  · rw [capacity_binary binary typed, capacity_binary (type ▸ binary) typed']
    exact ⟨le_room le_rfl _, room_mono le⟩

/-! ## Lengths of one type -/

theorem chars_inj {fixed : Bool} {s s' : Size} : chars fixed s = chars fixed s' ↔ s = s' := by
  cases fixed <;> simp [chars]

theorem bytes_inj {fixed : Bool} {s s' : Size} : bytes fixed s = bytes fixed s' ↔ s = s' := by
  cases fixed <;> simp [bytes]

theorem chars_count_ne (large : t.capacity = ⊤) (fixed : Bool) (n : ℕ) :
    chars fixed (.count n) ≠ t := by
  rintro rfl
  rw [capacity_chars] at large
  exact ENat.natCast_ne_top n large

theorem bytes_count_ne (large : t.capacity = ⊤) (fixed : Bool) (n : ℕ) :
    bytes fixed (.count n) ≠ t := by
  rintro rfl
  rw [capacity_bytes] at large
  exact ENat.natCast_ne_top n large

theorem nchar_max_ne_largeText (r : Release) : nchar .max ≠ largeText r := by
  cases r <;> nofun

end SqlType

/-- The lengths of two columns of one kind make no difference: they count the same, or both are
beyond what is counted and lead to the same large type. -/
def Column.Resembles (r : Release) (a b : Column) : Prop :=
  a.effectiveLength = b.effectiveLength ∨
  (a.type = .binary ∧ 8000 < a.effectiveLength ∧ 8000 < b.effectiveLength) ∨
  (a.type = .string ∧ (a.fixed = false ∨ r = .sql2000) ∧
    2000 < a.effectiveLength ∧ 2000 < b.effectiveLength) ∨
  (a.type = .string ∧ a.fixed = true ∧ r ≠ .sql2000 ∧
    ((2000 < a.effectiveLength ∧ a.effectiveLength ≤ 4000 ∧
        2000 < b.effectiveLength ∧ b.effectiveLength ≤ 4000) ∨
      (4000 < a.effectiveLength ∧ 4000 < b.effectiveLength)))

namespace SqlType

variable {r : Release} {a b : Column}

theorem ofColumn_eq_iff_of_string (ha : a.type = .string) (hb : b.type = .string)
    (fixed : a.fixed = b.fixed) : ofColumn r a = ofColumn r b ↔ a.Resembles r b := by
  have counted := chars_count_ne (capacity_largeText r) b.fixed
  have counted' := chars_count_ne (t := nchar .max) rfl b.fixed
  have large := nchar_max_ne_largeText r
  rw [ofColumn_string r ha, ofColumn_string r hb, Except.ok.injEq, Column.Resembles, ha, fixed]
  generalize a.effectiveLength = m
  generalize b.effectiveLength = n
  by_cases hm : m ≤ 2000 <;> by_cases hn : n ≤ 2000
  · -- no other length is rendered like zero, since 255 is no doubled number
    rw [if_pos hm, if_pos hn, chars_inj, Size.count.injEq]
    grind
  · rw [if_pos hm, if_neg hn]
    grind
  · rw [if_neg hm, if_pos hn]
    grind
  · rw [if_neg hm, if_neg hn]
    grind

theorem ofColumn_eq_iff_of_binary (ha : a.type = .binary) (hb : b.type = .binary)
    (fixed : a.fixed = b.fixed) : ofColumn r a = ofColumn r b ↔ a.Resembles r b := by
  have counted := bytes_count_ne (capacity_largeBinary r) b.fixed
  have counted' := bytes_count_ne (t := binary .max) rfl b.fixed
  rw [ofColumn_binary r ha, ofColumn_binary r hb, Except.ok.injEq, Column.Resembles, ha, fixed]
  generalize a.effectiveLength = m
  generalize b.effectiveLength = n
  by_cases hm : m ≤ 8000 <;> by_cases hn : n ≤ 8000
  · rw [if_pos hm, if_pos hn, bytes_inj, Size.count.injEq]
    grind
  · rw [if_pos hm, if_neg hn]
    grind
  · rw [if_neg hm, if_pos hn]
    grind
  · rw [if_neg hm, if_neg hn]
    grind

/-- **Which lengths lead to one type.** -/
theorem ofColumn_eq_iff_resembles (sized : a.type = .string ∨ a.type = .binary)
    (type : a.type = b.type) (fixed : a.fixed = b.fixed) :
    ofColumn r a = ofColumn r b ↔ a.Resembles r b := by
  rcases sized with string | binary
  · exact ofColumn_eq_iff_of_string string (type ▸ string) fixed
  · exact ofColumn_eq_iff_of_binary binary (type ▸ binary) fixed

end SqlType

namespace Column

variable {r : Release} {a b : Column}

/-- The columns differ in their lengths at most. -/
def Resized (a b : Column) : Prop := ∀ x, x ≠ .length → a.differ b x = false

theorem Resized.type (h : a.Resized b) : a.type = b.type := by
  simpa [differ] using h .type (by decide)

theorem Resized.fixed (h : a.Resized b) : a.fixed = b.fixed := by
  simpa [differ] using h .fixed (by decide)

/-- Lengths that are the same make no difference. -/
theorem Resized.resembles (h : a.Resized b) (same : a.differ b .length = false) :
    a.Resembles r b := by
  have length : a.length = b.length := by simpa [differ] using same
  left
  unfold effectiveLength
  rw [length, h.type]

end Column

namespace Release

variable {r : Release} {a b : Column}

/-! ## Changes of a length -/

theorem exists_comparedTypes_of_resized (sized : a.type = .string ∨ a.type = .binary)
    (resized : a.Resized b) : ∃ s t, r.dialect.comparedTypes (.between a b) = .ok (s, t) ∧
      (s = t ↔ a.Resembles r b) := by
  obtain ⟨t, typed, -⟩ := SqlType.exists_sized r sized
  obtain ⟨u, typed', -⟩ := SqlType.exists_sized r (resized.type ▸ sized)
  have known := SqlType.isOk_ofColumn r b
  rw [typed'] at known
  have moved : SqlType.ofColumn r (a.withTypeOf b) = .ok u := by
    rw [SqlType.ofColumn_withTypeOf r a known.symm, typed']
  refine ⟨t.text, u.text, Dialect.comparedTypes_eq_ok_iff.2
    ⟨typeText_of_ofColumn typed, typeText_of_ofColumn moved⟩, ?_⟩
  rw [← SqlType.ofColumn_eq_iff_resembles sized resized.type resized.fixed, typed, typed',
    Except.ok.injEq]
  exact ⟨SqlType.text_injective, congrArg SqlType.text⟩

end Release

/-- A change that concerns nothing but the length is empty if it does not concern that either. -/
theorem Change.isEmpty_eq_not_concerns {c : Change}
    (others : ∀ x, x ≠ .length → c.concerns x = false) : c.isEmpty = !c.concerns .length := by
  rw [Bool.eq_iff_iff, Change.isEmpty, AttributeSet.isEmpty_iff, Bool.not_eq_true']
  refine ⟨fun empty => empty .length, fun length x => ?_⟩
  by_cases hx : x = .length
  · rw [hx]
    exact length
  · exact others x hx

namespace Release

variable {r : Release} {a b : Column}

/-- **A change of the length is dropped, or kept as it is**: dropped if the lengths make no
difference. -/
theorem reduce?_between_of_resized (sized : a.type = .string ∨ a.type = .binary)
    (resized : a.Resized b) :
    (a.Resembles r b ∧ r.dialect.reduce? (.between a b) = .ok none) ∨
      ¬a.Resembles r b ∧ r.dialect.reduce? (.between a b) = .ok (some (.between a b)) := by
  have others : ∀ x, x ≠ .length → (Change.between a b).concerns x = false := resized
  have empty := Change.isEmpty_eq_not_concerns others
  cases concerns : (Change.between a b).concerns .length with
  | false =>
    have untyped : (Change.between a b).concernsType = false := by
      rw [Change.concernsType, others _ (by decide), concerns]
      rfl
    have reduced := Dialect.reduce_eq_self (d := r.dialect) (others _ (by decide)) untyped
    rw [concerns] at empty
    exact .inl ⟨resized.resembles concerns, Dialect.reduce?_eq_ok_none_iff.2 ⟨_, reduced, empty⟩⟩
  | true =>
    have typed : (Change.between a b).concernsType = true := by
      rw [Change.concernsType, concerns, Bool.or_true]
    obtain ⟨s, t, compared, same⟩ := exists_comparedTypes_of_resized (r := r) sized resized
    have reduced := Dialect.reduce_of_comparedTypes typed compared
    rw [Change.without_eq_self (others _ (by decide))] at reduced
    by_cases alike : s = t
    · rw [if_pos alike] at reduced
      have nothing : (Change.between a b).untyped.isEmpty = true := by
        rw [Change.isEmpty_eq_not_concerns] <;> simp +contextual [others]
      exact .inl ⟨same.1 alike, Dialect.reduce?_eq_ok_none_iff.2 ⟨_, reduced, nothing⟩⟩
    · rw [if_neg alike] at reduced
      rw [concerns] at empty
      exact .inr ⟨mt same.2 alike, Dialect.reduce?_eq_ok_some_iff.2 ⟨reduced, empty⟩⟩

/-- **Lengths are held, and a change of the length is dropped only if it makes no difference.** Of
two columns that are both strings or both binaries, each has a type; the one of the shorter column
holds its length, and that of the longer column holds no less. If the columns differ in nothing but
their lengths, the change from one to the other is dropped exactly if the lengths count the same or
overflow alike, and is kept as it is otherwise. -/
theorem reduce?_resized_iff (r : Release) (sized : a.type = .string ∨ a.type = .binary)
    (type : a.type = b.type) :
    (∀ n m, a.length = some n → b.length = some m → 1 ≤ n → n ≤ m → ∃ t u : SqlType,
      r.dialect.typeText a = .ok t.text ∧ r.dialect.typeText b = .ok u.text ∧
        (n.toNat : ℕ∞) ≤ t.capacity ∧ t.capacity ≤ u.capacity) ∧
    (a.Resized b →
      (r.dialect.reduce? (.between a b) = .ok none ↔ a.Resembles r b) ∧
      (¬a.Resembles r b → r.dialect.reduce? (.between a b) = .ok (some (.between a b)))) := by
  constructor
  · intro n m hn hm pos le
    obtain ⟨t, typed, -⟩ := SqlType.exists_sized r sized
    obtain ⟨u, typed', -⟩ := SqlType.exists_sized r (type ▸ sized)
    have counts : a.effectiveLength = n.toNat := Column.effectiveLength_of_pos hn pos
    have counts' : b.effectiveLength = m.toNat :=
      Column.effectiveLength_of_pos hm (UInt32.le_trans pos le)
    have held :=
      SqlType.capacity_mono sized type (counts ▸ pos) (counts ▸ counts' ▸ le) typed typed'
    rw [counts] at held
    exact ⟨t, u, typeText_of_ofColumn typed, typeText_of_ofColumn typed', held⟩
  · intro resized
    obtain ⟨alike, dropped⟩ | ⟨apart, kept⟩ := reduce?_between_of_resized (r := r) sized resized
    · exact ⟨iff_of_true dropped alike, fun apart => absurd alike apart⟩
    · refine ⟨iff_of_false ?_ apart, fun _ => kept⟩
      rw [kept]
      nofun

/-- A string of fixed length, longer than what is counted. -/
def longNote : Column where
  name := "A"
  type := .string
  length := some 2500
  fixed := true

/-- The same string, longer still. -/
def longerNote : Column := { longNote with length := some 3500 }

theorem reduce?_longNote :
    (longNote.type = .string ∨ longNote.type = .binary) ∧ longNote.type = longerNote.type ∧
    (∃ t u : SqlType, sql2008.dialect.typeText longNote = .ok t.text ∧
      sql2008.dialect.typeText longerNote = .ok u.text ∧
      ((2500 : UInt32).toNat : ℕ∞) ≤ t.capacity ∧ t.capacity ≤ u.capacity) ∧
    longNote.Resized longerNote ∧ longNote.Resembles sql2008 longerNote ∧
    sql2008.dialect.reduce? (.between longNote longerNote) = .ok none := by
  have sized : longNote.type = .string ∨ longNote.type = .binary := .inl rfl
  have resized : longNote.Resized longerNote := by
    rintro ⟨⟩ other <;> first | rfl | exact absurd rfl other
  -- both are in the middle range, where a fixed string has the size `MAX`
  have alike : longNote.Resembles sql2008 longerNote :=
    .inr (.inr (.inr ⟨rfl, rfl, by decide, .inl (by decide)⟩))
  obtain ⟨held, drops⟩ := reduce?_resized_iff sql2008 sized (b := longerNote) rfl
  exact ⟨sized, rfl, held 2500 3500 rfl rfl (by decide) (by decide), resized, alike,
    (drops resized).1.2 alike⟩

end Release

end TsqlAlter
