import TsqlAlter.Json.Value
import TsqlAlter.Proofs.Json.Grammar

/-!
# What is written is spelled

The written form of a value spells the value by the grammar of JSON, as long as the value is exact:
it holds no floating-point number, and its integers fit into 64 bits, signed or not.

`Value.tree` is the tree of a value and `Value.IsExact` says which values are exact.

Results:
* `encode_spelled`: a string is written so that it denotes itself, whatever its characters.
* `integer_spelled`: so is an integer.
* `Value.IsExact.spelled`: the written form of an exact value spells it.

Left out: floating-point numbers. They are written as the shortest decimal, or as null.
-/

namespace TsqlAlter.Json

/-! ## Strings -/

namespace Text

/-- Below the space a character is written by its code. -/
theorem hexValue4?_control {n : Nat} (h : n < 32) :
    hexValue4? '0' '0' (hexDigit (n / 16)) (hexDigit (n % 16)) = some n := by
  revert n
  decide

/-- A character is written as one piece that denotes it. -/
theorem exists_piece (c : Char) : ∃ p : Piece, p.Spelled (encodeChar c) ∧
    ∀ {pieces : List Piece} {s : List Char}, Denotes pieces s → Denotes (p :: pieces) (c :: s) := by
  unfold encodeChar
  split; · next e => subst e; exact ⟨_, .short _ _ rfl, .char _⟩
  split; · next e => subst e; exact ⟨_, .short _ _ rfl, .char _⟩
  split; · next e => subst e; exact ⟨_, .short _ _ rfl, .char _⟩
  split; · next e => subst e; exact ⟨_, .short _ _ rfl, .char _⟩
  split; · next e => subst e; exact ⟨_, .short _ _ rfl, .char _⟩
  split; · next e => subst e; exact ⟨_, .short _ _ rfl, .char _⟩
  split; · next e => subst e; exact ⟨_, .short _ _ rfl, .char _⟩
  split
  · next control =>
    have small : c.toNat < 32 := control
    refine ⟨.unit c.toNat, .unit _ _ _ _ _ (hexValue4?_control small), fun denotes => ?_⟩
    have high : isHigh c.toNat = false := by simp [isHigh]; omega
    have low : isLow c.toNat = false := by simp [isLow]; omega
    have := Denotes.unit c.toNat high low denotes
    rwa [Char.ofNat_toNat] at this
  · next quote backslash _ _ _ _ _ control =>
    exact ⟨.char c, .plain c (Char.not_lt.1 control) quote backslash, .char c⟩

/-- The characters of a string are written as pieces that denote them. -/
theorem exists_pieces (s : List Char) :
    ∃ pieces, Spelled pieces (s.flatMap encodeChar) ∧ Denotes pieces s := by
  induction s with
  | nil => exact ⟨[], .nil, .nil⟩
  | cons c s ih =>
    obtain ⟨pieces, spelled, denotes⟩ := ih
    obtain ⟨p, first, extend⟩ := exists_piece c
    exact ⟨p :: pieces, .cons first spelled, extend denotes⟩

/-- **A string is written so that it denotes itself**, whatever its characters. -/
theorem encode_spelled (s : String) : StringSpelled (some s) (encode s) := by
  obtain ⟨pieces, spelled, denotes⟩ := exists_pieces s.toList
  have value := StringSpelled.value spelled denotes
  rwa [String.ofList_toList] at value

end Text

/-! ## Integers -/

/-- The decimal digits of a natural number. -/
theorem digits_toDigits (n : Nat) : Numeral.Digits (Nat.toDigits 10 n) :=
  ⟨Nat.toDigits_ne_nil, fun _ hc => Nat.isDigit_of_mem_toDigits (by decide) (by decide) hc⟩

/-- No number but zero is written with a leading zero. -/
theorem whole_toDigits (n : Nat) : Numeral.Whole (Nat.toDigits 10 n) := by
  refine ⟨digits_toDigits n, ?_⟩
  induction n using Nat.strongRecOn with
  | ind n ih =>
    intro zero
    by_cases small : n < 10
    · rw [Nat.toDigits_of_lt_base small] at zero ⊢
      simp at zero
      simp [zero]
    · -- the digits begin as those of the tenth part, which is not zero
      have large : 10 ≤ n := Nat.not_lt.1 small
      rw [Nat.toDigits_of_base_le (by decide) large] at zero
      have begins : (Nat.toDigits 10 (n / 10)).head? = some '0' := by
        have nonempty : Nat.toDigits 10 (n / 10) ≠ [] := Nat.toDigits_ne_nil
        obtain ⟨d, ds, e⟩ := List.exists_cons_of_ne_nil nonempty
        rw [e] at zero ⊢
        exact zero
      have tenth := congrArg Text.value (ih (n / 10) (by omega) begins)
      rw [Text.value_toDigits] at tenth
      have : n / 10 = 0 := tenth
      omega

/-- An integer is written as a numeral without fraction and exponent. -/
theorem integer_spelled {i : Int} (low : -0x8000000000000000 ≤ i) (high : i < 0x10000000000000000) :
    Spelled (.number (.integer i)) (toString i).toList := by
  by_cases negative : i < 0
  · have written : (toString i).toList = ['-'] ++ Nat.toDigits 10 i.natAbs ++ [] ++ [] := by
      rw [Text.toList_toString_of_neg negative, List.append_nil, List.append_nil]
      rfl
    have number : Numeral.number? ⟨true, Nat.toDigits 10 i.natAbs, [], none⟩ =
        some (.integer i) := by
      have fits : 0 < i.natAbs ∧ 2 * i.natAbs ≤ UInt64.size := by
        rw [show UInt64.size = 0x10000000000000000 from rfl]
        omega
      have same : -(i.natAbs : Int) = i := by omega
      rw [Numeral.number?, Text.value_toDigits, if_neg (by simp), if_pos ⟨rfl, rfl, rfl, fits⟩,
        same]
    have spelled := Spelled.number (n := ⟨true, Nat.toDigits 10 i.natAbs, [], none⟩)
      ⟨.minus, whole_toDigits _, .none, .none⟩
    rwa [number, ← written] at spelled
  · obtain ⟨n, rfl⟩ := Int.eq_ofNat_of_zero_le (Int.not_lt.1 negative)
    have written : (toString (n : Int)).toList = [] ++ Nat.toDigits 10 n ++ [] ++ [] := by
      rw [Text.toList_toString_natCast, List.append_nil, List.append_nil, List.nil_append]
    have number : Numeral.number? ⟨false, Nat.toDigits 10 n, [], none⟩ = some (.integer n) := by
      rw [Numeral.number?_natural (by rw [Text.value_toDigits]; exact Int.ofNat_lt.1 high),
        Text.value_toDigits]
    have spelled := Spelled.number (n := ⟨false, Nat.toDigits 10 n, [], none⟩)
      ⟨.none, whole_toDigits _, .none, .none⟩
    rwa [number, ← written] at spelled

/-! ## Values -/

mutual

/-- A value as a tree. -/
def Value.tree : Value → Tree
  | .null => .null
  | .bool b => .bool b
  | .integer i => .number (.integer i)
  | .float x => .number (.float x)
  | .string s => .string s
  | .array items => .array (treeItems items) .closed
  | .object members => .object (treeMembers members) .closed

/-- Values as trees. -/
def treeItems : List Value → List Tree
  | [] => []
  | v :: more => v.tree :: treeItems more

/-- Members as members of a tree. -/
def treeMembers : List (String × Value) → List (Option String × Tree)
  | [] => []
  | (key, v) :: more => (some key, v.tree) :: treeMembers more

end

namespace Value

theorem treeItems_eq (items : List Value) : treeItems items = items.map tree := by
  induction items with
  | nil => rw [treeItems, List.map_nil]
  | cons v more ih => rw [treeItems, ih, List.map_cons]

theorem treeMembers_eq (members : List (String × Value)) :
    treeMembers members = members.map fun m => (some m.1, m.2.tree) := by
  induction members with
  | nil => rw [treeMembers, List.map_nil]
  | cons m more ih => rw [treeMembers, ih, List.map_cons]

theorem tree_array (items : List Value) :
    (Value.array items).tree = .array (items.map tree) .closed := by
  rw [tree, treeItems_eq]

theorem tree_object (members : List (String × Value)) :
    (Value.object members).tree =
      .object (members.map fun m => (some m.1, m.2.tree)) .closed := by
  rw [tree, treeMembers_eq]

/-- No floating-point number, and only integers of 64 bits, signed or not. -/
inductive IsExact : Value → Prop
  | null : IsExact .null
  | bool (b : Bool) : IsExact (.bool b)
  | integer {i : Int} (low : -0x8000000000000000 ≤ i) (high : i < 0x10000000000000000) :
    IsExact (.integer i)
  | string (s : String) : IsExact (.string s)
  | array {items : List Value} : (∀ v ∈ items, IsExact v) → IsExact (.array items)
  | object {members : List (String × Value)} : (∀ m ∈ members, IsExact m.2) →
    IsExact (.object members)

/-- Items are written one after the other. -/
theorem items_spelled (v : Value) (more : List Value)
    (h : ∀ w ∈ v :: more, Spelled w.tree w.chars) :
    ItemsSpelled ((v :: more).map tree) (charsItems (v :: more)) := by
  induction more generalizing v with
  | nil =>
    rw [charsItems]
    exact .one (h v List.mem_cons_self)
  | cons w more ih =>
    rw [charsItems]
    exact .cons (h v List.mem_cons_self) (ih w fun u hu => h u (List.mem_cons_of_mem v hu))

theorem key_spelled (key : String) : KeySpelled (some key) (Text.encode key) := by
  have unpadded := KeySpelled.mk blank_nil (Text.encode_spelled key) blank_nil
  rwa [List.nil_append, List.append_nil] at unpadded

/-- Members are written one after the other. -/
theorem members_spelled (m : String × Value) (more : List (String × Value))
    (h : ∀ n ∈ m :: more, Spelled n.2.tree n.2.chars) :
    MembersSpelled ((m :: more).map fun m => (some m.1, m.2.tree)) (charsMembers (m :: more)) := by
  induction more generalizing m with
  | nil =>
    rw [charsMembers]
    exact .one (key_spelled m.1) (h m List.mem_cons_self)
  | cons n more ih =>
    rw [charsMembers]
    exact .cons (key_spelled m.1) (h m List.mem_cons_self)
      (ih n fun u hu => h u (List.mem_cons_of_mem m hu))

/-- **The written form of an exact value spells it.** -/
theorem IsExact.spelled {v : Value} (h : v.IsExact) : Spelled v.tree v.chars := by
  induction h with
  | null =>
    rw [tree, chars]
    exact .null
  | bool b =>
    cases b
    · rw [tree, chars]
      exact .false
    · rw [tree, chars]
      exact .true
  | integer low high =>
    rw [tree, chars]
    exact integer_spelled low high
  | string s =>
    rw [tree, chars]
    exact .string (Text.encode_spelled s)
  | @array items _ ih =>
    rw [tree_array, chars_array]
    cases items with
    | nil =>
      rw [charsItems]
      exact .noItems blank_nil
    | cons v more => exact .array (items_spelled v more ih)
  | @object members _ ih =>
    rw [tree_object, chars_object]
    cases members with
    | nil =>
      rw [charsMembers]
      exact .noMembers blank_nil
    | cons m more => exact .object (members_spelled m more ih)

theorem IsExact.spelled_text {v : Value} (h : v.IsExact) : Spelled v.tree v.text.toList := by
  rw [text, String.toList_ofList]
  exact h.spelled

end Value

end TsqlAlter.Json
