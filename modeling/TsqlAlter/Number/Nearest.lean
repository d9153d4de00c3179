import TsqlAlter.Number.Binary64

/-!
# The binary64 number nearest to a decimal

`Binary64.ofRatio?` rounds a quotient of naturals to the nearest binary64 number, a half going to
the even neighbour, and refuses what rounds beyond the finite range. `Binary64.ofDecimal?` does so
for `digits * 10 ^ exponent`. All arithmetic is exact, and a decimal whose exponent is far outside
the range is decided before any power of ten is formed.
-/

namespace TsqlAlter

/-- The natural number nearest to `num / den`, a half going to the even neighbour. -/
def roundedDiv (num den : Nat) : Nat :=
  let q := num / den
  let r := num % den
  if 2 * r < den then q
  else if den < 2 * r then q + 1
  else q + q % 2

namespace Binary64

/-- Puts a sign before the bits of a magnitude. -/
def withSign (negative : Bool) (magnitude : Nat) : Binary64 :=
  ⟨UInt64.ofNat (if negative then 0x8000000000000000 + magnitude else magnitude)⟩

/-- `num / den * 2 ^ (-e)` as a quotient of naturals. -/
def scaleDown (num den : Nat) (e : Int) : Nat × Nat :=
  (num * twoTo (-e).toNat, den * twoTo e.toNat)

/--
The binary64 number nearest to `± num / den`; none if that lies beyond the finite numbers.

The unit in the last place is `2 ^ e` for the least `e ≥ -1074` that leaves at most fifty-three
bits. A significand that rounds up to fifty-four bits carries into the exponent field, where it
means the right number.
-/
def ofRatio? (negative : Bool) (num den : Nat) : Option Binary64 :=
  if num = 0 then
    some (zero negative)
  else
    let guess : Int := max ((num.log2 : Int) - den.log2 - 53) (-1074)
    let (n, d) := scaleDown num den guess
    let e := if n / d < twoTo 53 then guess else guess + 1
    let (n, d) := scaleDown num den e
    let magnitude := (e + 1074).toNat * twoTo 52 + roundedDiv n d
    if magnitude < 0x7FF0000000000000 then some (withSign negative magnitude) else none

/--
The binary64 number nearest to `± digits * 10 ^ exponent`; none beyond the finite numbers.

A natural of `b + 1` bits lies between `10 ^ (b / 4)` and `10 ^ (b / 3 + 1)`, which settles the
decimals below `10 ^ -399` and above `10 ^ 400`.
-/
def ofDecimal? (negative : Bool) (digits : Nat) (exponent : Int) : Option Binary64 :=
  if digits = 0 ∨ exponent + digits.log2 / 3 < -400 then some (zero negative)
  else if 400 < exponent + digits.log2 / 4 then none
  else ofRatio? negative (digits * tenTo exponent.toNat) (tenTo (-exponent).toNat)

/-- The binary64 number nearest to an integer of at most a thousand bits. -/
def ofInt (i : Int) : Binary64 :=
  (ofRatio? (i < 0) i.natAbs 1).getD (infinity (i < 0))

end Binary64

end TsqlAlter
