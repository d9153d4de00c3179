import TsqlAlter.Number.Binary64

/-!
# The shortest decimal of a binary64 number

A decimal reads back as `x` when it lies among the reals that round to `x`: between the middles of
`x` and its two neighbours, ends included exactly when the significand is even.
`Binary64.shortest` takes, for one digit, two digits and so on, the two decimals next to the value
on that grid; the first grid with a decimal that reads back wins, of two the nearer, and an exact
tie goes as the caller says. Exact natural arithmetic throughout.
-/

namespace TsqlAlter

/-- The number `digits * 10 ^ exponent`. -/
structure Decimal where
  digits : Nat
  exponent : Int
deriving DecidableEq, Repr

/-- Which of two equally near decimals is taken. -/
inductive Tie where
  /-- The one whose last digit is even. -/
  | even
  /-- The greater one. -/
  | up
deriving DecidableEq, Repr

namespace Decimal

/-- Compares `a * 10 ^ i` with `n * 2 ^ j`. -/
def compareScaled (a : Nat) (i : Int) (n : Nat) (j : Int) : Ordering :=
  compare (a * tenTo i.toNat * twoTo (-j).toNat) (n * twoTo j.toNat * tenTo (-i).toNat)

/-- The same number without trailing zeros, dropping at most `fuel` of them. -/
def strip : Nat → Decimal → Decimal
  | 0, d => d
  | fuel + 1, d =>
    if d.digits ≠ 0 ∧ d.digits % 10 = 0 then strip fuel ⟨d.digits / 10, d.exponent + 1⟩ else d

end Decimal

namespace Binary64

open Decimal

/-- The decimal lies among the reals that round to the magnitude of `x`. -/
def readsBack (x : Binary64) (d : Decimal) : Bool :=
  let m := x.significand
  let low := if x.narrowBelow then 4 * m - 1 else 4 * m - 2
  let high := 4 * m + 2
  let below := compareScaled d.digits d.exponent low (x.exponent - 2)
  let above := compareScaled d.digits d.exponent high (x.exponent - 2)
  let closed := m % 2 == 0
  (below == .gt || (closed && below == .eq)) && (above == .lt || (closed && above == .eq))

/-- The greatest natural `c` with `c * 10 ^ k` at most the magnitude of `x`. -/
def gridBelow (x : Binary64) (k : Int) : Nat :=
  (x.significand * twoTo x.exponent.toNat * tenTo (-k).toNat) /
    (twoTo (-x.exponent).toNat * tenTo k.toNat)

/-- The decimal exponent of the leading digit of a number other than zero. -/
def leadingExponent (x : Binary64) : Int :=
  ((Nat.toDigits 10 (x.gridBelow (-350))).length : Int) - 351

/-- Of the two neighbours of `x` on the grid of `10 ^ k`, the one to take, if one reads back. -/
def neighbour? (tie : Tie) (x : Binary64) (k : Int) : Option Decimal :=
  let c := x.gridBelow k
  let below : Decimal := ⟨c, k⟩
  let above : Decimal := ⟨c + 1, k⟩
  if x.readsBack below then
    if x.readsBack above then
      match compareScaled (2 * c + 1) k (2 * x.significand) x.exponent, tie with
      | .gt, _ => some below
      | .lt, _ => some above
      | .eq, .up => some above
      | .eq, .even => some (if c % 2 = 0 then below else above)
    else some below
  else if x.readsBack above then some above
  else none

/-- The value itself, as a decimal with all its digits. -/
def exact (x : Binary64) : Decimal := ⟨x.gridBelow (min x.exponent 0), min x.exponent 0⟩

/-- The shortest decimal that reads back as the magnitude of a finite number. -/
def shortest (tie : Tie) (x : Binary64) : Decimal :=
  if x.isZero then
    ⟨0, 0⟩
  else
    let grids := (List.range 17).map fun n : Nat => x.leadingExponent - (n : Int)
    ((grids.findSome? (x.neighbour? tie)).getD x.exact).strip 20

end Binary64

end TsqlAlter
