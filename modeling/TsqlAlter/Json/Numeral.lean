import TsqlAlter.Json.Error
import TsqlAlter.Number.Nearest
import TsqlAlter.Text.Numeral

/-!
# Numbers in JSON

A numeral is scanned into its parts first; which number it stands for is decided afterwards. A
numeral without fraction and exponent is an integer if it fits into 64 bits, signed when it has a
minus sign. Every other one, `-0` included, is the nearest binary64 number, a half going to the even
one. That is the assumption here: a reader that takes a faster way may miss the nearest number by
one unit in the last place, as for `0.9999999999999999`, and reads such a numeral as another number.

Results:
* `scan_rest_lt`: a numeral takes at least one character.
* `Numeral.number?_natural`: a numeral of digits alone that fits is that natural.
-/

namespace TsqlAlter.Json

/-- A JSON number. -/
inductive Number where
  | integer (i : Int)
  | float (x : Binary64)
deriving DecidableEq, Repr

/-- The parts of a written number. -/
structure Numeral where
  negative : Bool
  whole : List Char
  /-- The digits after the point; empty when there is no point. -/
  fraction : List Char
  exponent : Option Int
deriving DecidableEq, Repr

namespace Numeral

/-- Why digits are missing: the text ends, or something else stands there. -/
def lacking : List Char → Fault
  | [] => .truncated
  | _ :: _ => .malformed

/-- One or more digits. -/
def digits (s : List Char) : Except Fault (List Char × List Char) :=
  match s.takeWhile Char.isDigit with
  | [] => .error (lacking s)
  | ds => .ok (ds, s.dropWhile Char.isDigit)

/-- The digits before the point: a leading zero stands alone. -/
def wholePart (s : List Char) : Except Fault (List Char × List Char) := do
  let (ds, rest) ← digits s
  if ds.head? = some '0' ∧ 1 < ds.length then throw .malformed
  return (ds, rest)

/-- The digits after a point, if there is one. -/
def fractionPart : List Char → Except Fault (List Char × List Char)
  | '.' :: rest => digits rest
  | rest => .ok ([], rest)

/-- The exponent after its mark, if there is one. -/
def exponentPart : List Char → Except Fault (Option Int × List Char)
  | [] => .ok (none, [])
  | c :: rest =>
    if c = 'e' ∨ c = 'E' then
      match rest with
      | '-' :: rest => (digits rest).map fun p => (some (-(Text.value p.1 : Int)), p.2)
      | '+' :: rest => (digits rest).map fun p => (some (Text.value p.1 : Int), p.2)
      | rest => (digits rest).map fun p => (some (Text.value p.1 : Int), p.2)
    else .ok (none, c :: rest)

/-- The sign before a number. -/
def signPart : List Char → Bool × List Char
  | '-' :: rest => (true, rest)
  | rest => (false, rest)

/-- The numeral at the beginning of a text, and what follows it. -/
def scan (s : List Char) : Except Fault (Numeral × List Char) := do
  let (negative, rest) := signPart s
  let (whole, rest) ← wholePart rest
  let (fraction, rest) ← fractionPart rest
  let (exponent, rest) ← exponentPart rest
  return (⟨negative, whole, fraction, exponent⟩, rest)

/-- The number a numeral stands for; none if it is too large for a binary64 number. -/
def number? (n : Numeral) : Option Number :=
  let magnitude := Text.value n.whole
  if n.fraction = [] ∧ n.exponent = none ∧ !n.negative ∧ magnitude < UInt64.size then
    some (.integer magnitude)
  else if n.fraction = [] ∧ n.exponent = none ∧ n.negative ∧ 0 < magnitude ∧
      2 * magnitude ≤ UInt64.size then
    some (.integer (-magnitude))
  else
    (Binary64.ofDecimal? n.negative (Text.value (n.whole ++ n.fraction))
      (n.exponent.getD 0 - n.fraction.length)).map .float

theorem number?_natural {ds : List Char} (h : Text.value ds < UInt64.size) :
    number? ⟨false, ds, [], none⟩ = some (.integer (Text.value ds)) := by
  unfold number?
  exact if_pos ⟨rfl, rfl, rfl, h⟩

/-! ## What follows is shorter -/

theorem digits_rest_lt {s ds rest : List Char} (h : digits s = .ok (ds, rest)) :
    rest.length < s.length := by
  unfold digits at h
  split at h
  · cases h
  · next hd =>
    cases h
    have split := congrArg List.length
      (List.takeWhile_append_dropWhile (p := Char.isDigit) (l := s))
    have nonempty := List.length_pos_iff.2 hd
    rw [List.length_append] at split
    omega

theorem wholePart_rest_lt {s ds rest : List Char} (h : wholePart s = .ok (ds, rest)) :
    rest.length < s.length := by
  unfold wholePart at h
  match hd : digits s with
  | .error _ => rw [hd] at h; cases h
  | .ok (ds', rest') =>
    rw [hd] at h
    by_cases hz : ds'.head? = some '0' ∧ 1 < ds'.length
    · simp [bind, Except.bind, hz, throw, throwThe, MonadExceptOf.throw] at h
    · simp [bind, Except.bind, hz, pure, Except.pure] at h
      rw [← h.2]; exact digits_rest_lt hd

theorem fractionPart_rest_le {s ds rest : List Char} (h : fractionPart s = .ok (ds, rest)) :
    rest.length ≤ s.length := by
  unfold fractionPart at h
  split at h
  · exact Nat.le_of_lt (Nat.lt_succ_of_lt (digits_rest_lt h))
  · cases h; exact Nat.le_refl _

theorem map_digits_rest_lt {α : Type} {f : List Char → α} {s rest : List Char} {a : α}
    (h : ((digits s).map fun p => (f p.1, p.2)) = .ok (a, rest)) :
    rest.length < s.length := by
  match hd : digits s with
  | .error _ => rw [hd] at h; cases h
  | .ok (ds, rest') => rw [hd] at h; cases h; exact digits_rest_lt hd

theorem exponentPart_rest_le {s rest : List Char} {e : Option Int}
    (h : exponentPart s = .ok (e, rest)) : rest.length ≤ s.length := by
  unfold exponentPart at h
  split at h
  · cases h; exact Nat.le_refl _
  · split at h
    · split at h
      · have := map_digits_rest_lt (f := fun ds => some (-(Text.value ds : Int))) h
        simp only [List.length_cons]; omega
      · have := map_digits_rest_lt (f := fun ds => some (Text.value ds : Int)) h
        simp only [List.length_cons]; omega
      · have := map_digits_rest_lt (f := fun ds => some (Text.value ds : Int)) h
        simp only [List.length_cons]; omega
    · cases h; exact Nat.le_refl _

theorem signPart_rest_le (s : List Char) : (signPart s).2.length ≤ s.length := by
  unfold signPart
  split <;> simp

/-- What follows a numeral is shorter than the text. -/
theorem scan_rest_lt {s rest : List Char} {n : Numeral} (h : scan s = .ok (n, rest)) :
    rest.length < s.length := by
  unfold scan at h
  have h0 := signPart_rest_le s
  generalize signPart s = signed at h h0
  obtain ⟨negative, r0⟩ := signed
  dsimp only at h h0
  match h1 : wholePart r0 with
  | .error _ => rw [h1] at h; cases h
  | .ok (whole, r1) =>
    rw [h1] at h
    have l1 := wholePart_rest_lt h1
    match h2 : fractionPart r1 with
    | .error _ => simp [bind, Except.bind, h2] at h
    | .ok (fraction, r2) =>
      have l2 := fractionPart_rest_le h2
      match h3 : exponentPart r2 with
      | .error _ => simp [bind, Except.bind, h2, h3] at h
      | .ok (exponent, r3) =>
        have l3 := exponentPart_rest_le h3
        simp [bind, Except.bind, h2, h3, pure, Except.pure] at h
        rw [← h.2]
        omega

end Numeral

end TsqlAlter.Json
