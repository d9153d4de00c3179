import TsqlAlter.Number.Power

/-!
# Binary64 numbers

A binary64 number is its 64 bits: a sign, an exponent field of eleven bits and a fraction of
fifty-two. A finite one stands for `± significand * 2 ^ exponent`.

`Binary64.agree` is the numerical equality of the format: the two zeros agree and a NaN agrees
with nothing, itself included. Equality of values (`=`) is equality of bits.

Results:
* `agree_comm`: agreement is symmetric.
* `agree_self_iff`: exactly the values that are no NaN agree with themselves.
-/

namespace TsqlAlter

/-- A 64-bit binary floating-point number, by its bits. -/
structure Binary64 where
  bits : UInt64
deriving DecidableEq, Repr

namespace Binary64

/-- The sign bit. -/
def negative (x : Binary64) : Bool := x.bits >>> 63 == 1

/-- The biased exponent. -/
def exponentField (x : Binary64) : Nat := ((x.bits >>> 52) &&& 0x7FF).toNat

/-- The stored bits of the significand. -/
def fraction (x : Binary64) : Nat := (x.bits &&& 0xFFFFFFFFFFFFF).toNat

/-- Neither infinite nor a NaN. -/
def isFinite (x : Binary64) : Bool := x.exponentField != 0x7FF

/-- Not a number. -/
def isNaN (x : Binary64) : Bool := x.exponentField == 0x7FF && x.fraction != 0

/-- One of the two zeros. -/
def isZero (x : Binary64) : Bool := x.exponentField == 0 && x.fraction == 0

/-- The significand of a finite number, as an integer. -/
def significand (x : Binary64) : Nat :=
  if x.exponentField = 0 then x.fraction else twoTo 52 + x.fraction

/-- The power of two that goes with `significand`. -/
def exponent (x : Binary64) : Int :=
  if x.exponentField = 0 then -1074 else (x.exponentField : Int) - 1075

/-- The neighbour below lies half as far away as the neighbour above. -/
def narrowBelow (x : Binary64) : Bool := x.fraction == 0 && x.exponentField > 1

/-- Numerical equality. -/
def agree (x y : Binary64) : Bool :=
  !x.isNaN && !y.isNaN && (x == y || (x.isZero && y.isZero))

theorem agree_comm (x y : Binary64) : agree x y = agree y x := by
  have h : (x == y) = (y == x) := by
    rw [Bool.eq_iff_iff, beq_iff_eq, beq_iff_eq]; exact eq_comm
  unfold agree
  rw [h]
  cases x.isNaN <;> cases y.isNaN <;> cases x.isZero <;> cases y.isZero <;> simp

theorem agree_self_iff (x : Binary64) : agree x x = true ↔ x.isNaN = false := by
  simp [agree]

/-- The quiet NaN. -/
def nan : Binary64 := ⟨0x7FF8000000000000⟩

/-- The infinity of a sign. -/
def infinity (negative : Bool) : Binary64 :=
  if negative then ⟨0xFFF0000000000000⟩ else ⟨0x7FF0000000000000⟩

/-- The zero of a sign. -/
def zero (negative : Bool) : Binary64 := if negative then ⟨0x8000000000000000⟩ else ⟨0⟩

end Binary64

end TsqlAlter
