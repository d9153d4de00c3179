import TsqlAlter.Json.Tree

/-!
# The grammar of JSON

Which texts spell which trees, told by the rules of the notation and not by how a text is cut into
tokens: blanks may surround every value and every key, a character of a string may stand for itself
or be escaped, a number may have a fraction and an exponent. A string in which a surrogate has no
partner is JSON but has no value, and so is a number beyond the binary64 range; both are unusable.

`Spelled t s` says that the text spells the tree. It is defined together with the spelling of items
and of members, and by way of `StringSpelled`, `KeySpelled` and `Numeral.Spelled`. `Denotes` says
which characters the pieces of a string stand for.

Results:
* `denotes_iff`: decoding finds what the pieces of a string stand for, if there is anything.

Left out: texts that are no JSON. They spell no tree.
-/

namespace TsqlAlter.Json

/-- Nothing but white space. -/
def Blank (s : List Char) : Prop := ∀ c ∈ s, c ∈ [' ', '\n', '\t', '\r']

theorem blank_nil : Blank [] := fun _ hc => absurd hc List.not_mem_nil

/-! ## Strings -/

namespace Text

/-- How one piece of a string is written. -/
inductive Piece.Spelled : Piece → List Char → Prop
  | plain (c : Char) (visible : ' ' ≤ c) (quote : c ≠ '"') (backslash : c ≠ '\\') :
    Spelled (.char c) [c]
  | short (e c : Char) (escape : shortEscape? e = some c) : Spelled (.char c) ['\\', e]
  | unit (x y z w : Char) (code : Nat) (hex : hexValue4? x y z w = some code) :
    Spelled (.unit code) ['\\', 'u', x, y, z, w]

/-- How the pieces of a string are written one after the other. -/
inductive Spelled : List Piece → List Char → Prop
  | nil : Spelled [] []
  | cons {p : Piece} {pieces : List Piece} {first more : List Char} :
    p.Spelled first → Spelled pieces more → Spelled (p :: pieces) (first ++ more)

/-- The characters that pieces stand for. A code unit that is no surrogate is a character, and so
are two surrogates that make a pair. -/
inductive Denotes : List Piece → List Char → Prop
  | nil : Denotes [] []
  | char (c : Char) {pieces : List Piece} {s : List Char} :
    Denotes pieces s → Denotes (.char c :: pieces) (c :: s)
  | unit (code : Nat) (high : isHigh code = false) (low : isLow code = false)
      {pieces : List Piece} {s : List Char} :
    Denotes pieces s → Denotes (.unit code :: pieces) (Char.ofNat code :: s)
  | pair (h l : Nat) (high : isHigh h = true) (low : isLow l = true)
      {pieces : List Piece} {s : List Char} :
    Denotes pieces s → Denotes (.unit h :: .unit l :: pieces)
      (Char.ofNat (0x10000 + (h - 0xD800) * 0x400 + (l - 0xDC00)) :: s)

theorem decode_unit_cons {code : Nat} (high : isHigh code = false) (low : isLow code = false)
    (pieces : List Piece) :
    decode (.unit code :: pieces) = (decode pieces).map (Char.ofNat code :: ·) := by
  match pieces with
  | [] => simp [decode, high, low]
  | .char c :: pieces => simp [decode, high, low]
  | .unit l :: pieces => simp [decode, high, low]

/-- Decoding finds what the pieces of a string stand for. -/
theorem denotes_iff {pieces : List Piece} {s : List Char} :
    Denotes pieces s ↔ decode pieces = some s := by
  constructor
  · intro denotes
    induction denotes with
    | nil => rfl
    | char c _ ih => simp [decode, ih]
    | unit code high low _ ih => simp [decode_unit_cons high low, ih]
    | pair h l high low _ ih => simp [decode, high, low, ih]
  · intro found
    fun_induction decode pieces generalizing s with
    | case1 =>
      cases found
      exact .nil
    | case2 c pieces ih =>
      obtain ⟨t, ht, rfl⟩ := Option.map_eq_some_iff.1 found
      exact .char c (ih ht)
    | case3 h l pieces high low ih =>
      obtain ⟨t, ht, rfl⟩ := Option.map_eq_some_iff.1 found
      exact .pair h l high low (ih ht)
    | case4 => cases found
    | case5 => cases found
    | case6 h l pieces high low ih =>
      obtain ⟨t, ht, rfl⟩ := Option.map_eq_some_iff.1 found
      exact .unit h (Bool.not_eq_true _ ▸ high) (Bool.not_eq_true _ ▸ low) (ih ht)
    | case7 => cases found
    | case8 h pieces alone sound ih =>
      obtain ⟨t, ht, rfl⟩ := Option.map_eq_some_iff.1 found
      simp only [Bool.or_eq_true, not_or, Bool.not_eq_true] at sound
      exact .unit h sound.1 sound.2 (ih ht)

end Text

/-- How a string is written, in its quotes. A surrogate without partner leaves it without value. -/
inductive StringSpelled : Option String → List Char → Prop
  | value {pieces : List Text.Piece} {s chars : List Char} :
    Text.Spelled pieces s → Text.Denotes pieces chars →
    StringSpelled (some (String.ofList chars)) ('"' :: (s ++ ['"']))
  | unpaired {pieces : List Text.Piece} {s : List Char} :
    Text.Spelled pieces s → (∀ chars, ¬Text.Denotes pieces chars) →
    StringSpelled none ('"' :: (s ++ ['"']))

/-- How a key is written. -/
inductive KeySpelled : Option String → List Char → Prop
  | mk {key : Option String} {k before after : List Char} :
    Blank before → StringSpelled key k → Blank after → KeySpelled key (before ++ k ++ after)

/-! ## Numbers -/

namespace Numeral

/-- One or more digits. -/
def Digits (s : List Char) : Prop := s ≠ [] ∧ ∀ c ∈ s, c.isDigit = true

/-- Digits of which a leading zero is the only one. -/
def Whole (s : List Char) : Prop := Digits s ∧ (s.head? = some '0' → s = ['0'])

/-- How a sign is written. -/
inductive SignSpelled : Bool → List Char → Prop
  | none : SignSpelled false []
  | minus : SignSpelled true ['-']

/-- How the digits after the point are written. -/
inductive FractionSpelled : List Char → List Char → Prop
  | none : FractionSpelled [] []
  | point {ds : List Char} : Digits ds → FractionSpelled ds ('.' :: ds)

/-- How an exponent is written. -/
inductive ExponentSpelled : Option Int → List Char → Prop
  | none : ExponentSpelled none []
  | unsigned {mark : Char} {ds : List Char} : mark ∈ ['e', 'E'] → Digits ds →
    ExponentSpelled (some (Text.value ds)) (mark :: ds)
  | plus {mark : Char} {ds : List Char} : mark ∈ ['e', 'E'] → Digits ds →
    ExponentSpelled (some (Text.value ds)) (mark :: '+' :: ds)
  | minus {mark : Char} {ds : List Char} : mark ∈ ['e', 'E'] → Digits ds →
    ExponentSpelled (some (-(Text.value ds : Int))) (mark :: '-' :: ds)

/-- How a numeral is written. -/
structure Spelled (n : Numeral) (sign fraction exponent : List Char) : Prop where
  sign : SignSpelled n.negative sign
  whole : Whole n.whole
  fraction : FractionSpelled n.fraction fraction
  exponent : ExponentSpelled n.exponent exponent

end Numeral

/-! ## Values -/

/-- The tree of a string. -/
def Tree.ofString? : Option String → Tree
  | some s => .string s
  | none => .unusable

/-- The tree of a number. -/
def Tree.ofNumber? : Option Number → Tree
  | some n => .number n
  | none => .unusable

mutual

/-- How a value is written. -/
inductive Spelled : Tree → List Char → Prop
  | null : Spelled .null ['n', 'u', 'l', 'l']
  | true : Spelled (.bool true) ['t', 'r', 'u', 'e']
  | false : Spelled (.bool false) ['f', 'a', 'l', 's', 'e']
  | number {n : Numeral} {sign fraction exponent : List Char} :
    n.Spelled sign fraction exponent →
    Spelled (.ofNumber? n.number?) (sign ++ n.whole ++ fraction ++ exponent)
  | string {value : Option String} {s : List Char} :
    StringSpelled value s → Spelled (.ofString? value) s
  | noItems {blank : List Char} : Blank blank →
    Spelled (.array [] .closed) ('[' :: (blank ++ [']']))
  | array {items : List Tree} {s : List Char} :
    ItemsSpelled items s → Spelled (.array items .closed) ('[' :: (s ++ [']']))
  | noMembers {blank : List Char} : Blank blank →
    Spelled (.object [] .closed) ('\x7b' :: (blank ++ ['\x7d']))
  | object {members : List (Option String × Tree)} {s : List Char} :
    MembersSpelled members s → Spelled (.object members .closed) ('\x7b' :: (s ++ ['\x7d']))
  | blanks {t : Tree} {s before after : List Char} :
    Blank before → Spelled t s → Blank after → Spelled t (before ++ s ++ after)

/-- How one or more items are written. -/
inductive ItemsSpelled : List Tree → List Char → Prop
  | one {t : Tree} {s : List Char} : Spelled t s → ItemsSpelled [t] s
  | cons {t : Tree} {items : List Tree} {s more : List Char} :
    Spelled t s → ItemsSpelled items more → ItemsSpelled (t :: items) (s ++ ',' :: more)

/-- How one or more members are written. -/
inductive MembersSpelled : List (Option String × Tree) → List Char → Prop
  | one {key : Option String} {t : Tree} {k s : List Char} :
    KeySpelled key k → Spelled t s → MembersSpelled [(key, t)] (k ++ ':' :: s)
  | cons {key : Option String} {t : Tree} {members : List (Option String × Tree)}
      {k s more : List Char} :
    KeySpelled key k → Spelled t s → MembersSpelled members more →
    MembersSpelled ((key, t) :: members) (k ++ ':' :: s ++ ',' :: more)

end

end TsqlAlter.Json
