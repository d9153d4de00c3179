import TsqlAlter.Number.Power

/-!
# Decimal numerals

`value` is the number a list of decimal digits denotes, most significant digit first, and
`natural?` reads a numeral: one or more ASCII digits, leading zeros allowed.

Results:
* `value_append`: the value of a concatenation, by the power of ten of the second part.
* `natural?_eq_some_iff`: what is read, and as which number.
* `natural?_toDigits`: a number is read from its digits.
* `toList_toString_natCast`, `toList_toString_of_neg`: how integers are written.
* `unsigned?_eq_some_iff`: which texts are numerals of a number below a bound, and of which one.
-/

namespace TsqlAlter.Text

/-- The value of an ASCII digit. -/
def digit (c : Char) : Nat := c.toNat - 48

/-- The number that a list of digits denotes. -/
def value (ds : List Char) : Nat :=
  ds.foldl (fun n c => 10 * n + digit c) 0

/-- Reads one or more digits as a number. -/
def natural? (s : List Char) : Option Nat :=
  if s ≠ [] ∧ s.all Char.isDigit then some (value s) else none

theorem natural?_eq_some_iff (s : List Char) (n : Nat) :
    natural? s = some n ↔ s ≠ [] ∧ (∀ c ∈ s, c.isDigit = true) ∧ value s = n := by
  rw [← List.all_eq_true, ← and_assoc]
  unfold natural?
  split
  · next h => simp [h]
  · next h => exact ⟨fun e => (nomatch e), fun e => absurd e.1 h⟩

theorem foldl_value (ds : List Char) (n : Nat) :
    ds.foldl (fun n c => 10 * n + digit c) n = n * tenTo ds.length + value ds := by
  unfold value
  induction ds generalizing n with
  | nil => simp
  | cons c ds ih =>
    rw [List.foldl_cons, List.foldl_cons, ih, ih (10 * 0 + digit c)]
    simp only [List.length_cons, tenTo_succ]
    grind

theorem value_append (s t : List Char) :
    value (s ++ t) = value s * tenTo t.length + value t := by
  conv => lhs; unfold value
  rw [List.foldl_append, foldl_value]
  rfl

/-- Only zeros denote zero. -/
theorem value_eq_zero_iff {ds : List Char} (digits : ∀ c ∈ ds, c.isDigit = true) :
    value ds = 0 ↔ ∀ c ∈ ds, c = '0' := by
  induction ds with
  | nil => simp [value]
  | cons c ds ih =>
    rw [List.forall_mem_cons] at digits ⊢
    have split := value_append [c] ds
    have first : value [c] = digit c := by simp [value]
    have power := tenTo_pos ds.length
    rw [List.singleton_append, first] at split
    rw [split, Nat.add_eq_zero_iff, Nat.mul_eq_zero, ih digits.2,
      or_iff_left (Nat.ne_of_gt power)]
    refine and_congr_left fun _ => ?_
    have range : 48 ≤ c.toNat ∧ c.toNat ≤ 57 := Char.isDigit_iff_toNat.1 digits.1
    rw [← Char.toNat_inj]
    unfold digit
    show c.toNat - 48 = 0 ↔ c.toNat = 48
    omega

/-! ## Written numbers -/

theorem value_toDigits (n : Nat) : value (Nat.toDigits 10 n) = n :=
  Nat.ofDigitChars_ten_toDigits

/-- A number is read from its digits. -/
theorem natural?_toDigits (n : Nat) : natural? (Nat.toDigits 10 n) = some n := by
  refine (natural?_eq_some_iff _ n).2 ⟨Nat.toDigits_ne_nil, fun c hc => ?_, value_toDigits n⟩
  exact Nat.isDigit_of_mem_toDigits (by decide) (by decide) hc

/-- Nothing but digits stands in a written number. -/
theorem not_mem_toDigits {c : Char} (h : c.isDigit = false) (n : Nat) :
    c ∉ Nat.toDigits 10 n := by
  intro digit
  rw [Nat.isDigit_of_mem_toDigits (by decide) (by decide) digit] at h
  cases h

theorem toList_toString_natCast (n : Nat) : (toString (n : Int)).toList = Nat.toDigits 10 n := by
  simp [Int.repr_eq_if]

theorem toList_toString_of_neg {i : Int} (h : i < 0) :
    (toString i).toList = '-' :: Nat.toDigits 10 i.natAbs := by
  have magnitude : (-i).toNat = i.natAbs := by omega
  simp [Int.repr_eq_if, Int.not_le.2 h, magnitude]

/-! ## Bounded numerals -/

/-- Reads a numeral that may have a plus sign, of a number below a bound. -/
def unsigned? (bound : Nat) (s : List Char) : Option Nat :=
  let digits := match s with
    | '+' :: rest => rest
    | rest => rest
  (natural? digits).filter (· < bound)

variable {s : List Char}

/-- The text is a numeral of a number: digits, with a plus sign in front or without. -/
def IsNumeral (s : List Char) (n : Nat) : Prop :=
  ∃ digits, (s = digits ∨ s = '+' :: digits) ∧ digits ≠ [] ∧ (∀ c ∈ digits, c.isDigit = true) ∧
    value digits = n

/-- **Which texts are numerals** of a number below a bound. -/
theorem unsigned?_eq_some_iff {bound n : Nat} :
    unsigned? bound s = some n ↔ IsNumeral s n ∧ n < bound := by
  unfold unsigned? IsNumeral
  rw [Option.filter_eq_some_iff, decide_eq_true_eq, natural?_eq_some_iff]
  refine and_congr_left fun _ => ?_
  split
  · next digits =>
    constructor
    · exact fun h => ⟨digits, .inr rfl, h⟩
    · rintro ⟨_, rfl | same, h⟩
      · exact absurd (h.2.1 '+' List.mem_cons_self) (by decide)
      · cases same
        exact h
  · next unsigned =>
    constructor
    · exact fun h => ⟨s, .inl rfl, h⟩
    · rintro ⟨digits, rfl | same, h⟩
      · exact h
      · exact absurd same (unsigned digits)

/-- A numeral is one of a single number. -/
theorem IsNumeral.unique {m n : Nat} (hm : IsNumeral s m) (hn : IsNumeral s n) : m = n := by
  have first := unsigned?_eq_some_iff.2 ⟨hm, Nat.lt_succ_of_le (Nat.le_max_left m n)⟩
  have second := unsigned?_eq_some_iff.2 ⟨hn, Nat.lt_succ_of_le (Nat.le_max_right m n)⟩
  rw [first] at second
  exact Option.some.inj second

/-- Nothing but digits and a plus sign stands in a numeral. -/
theorem IsNumeral.mem {n : Nat} {c : Char} (h : IsNumeral s n) (hc : c ∈ s) :
    c.isDigit = true ∨ c = '+' := by
  obtain ⟨digits, rfl | rfl, -, all, -⟩ := h
  · exact .inl (all c hc)
  · rcases List.mem_cons.1 hc with rfl | hc
    · exact .inr rfl
    · exact .inl (all c hc)

end TsqlAlter.Text
