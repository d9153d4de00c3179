import TsqlAlter.Number.Shortest

/-!
# How a binary64 number is written

A layout fixes what the shortest digits leave open: the way ties go, which numbers are written
without an exponent, and whether a whole number shows a fraction. The sign always stands in front,
that of a zero included.
-/

namespace TsqlAlter

/-- The decisions of a written form. -/
structure Layout where
  /-- Which of two equally near decimals is taken. -/
  tie : Tie
  /-- The leading exponents that are written without an exponent; none means all of them. -/
  plain : Option (Int × Int)
  /-- What follows the digits of a whole number. -/
  whole : String

namespace Layout

/-- So many zeros. -/
def zeros (n : Nat) : List Char := List.replicate n '0'

/-- A decimal in digits alone, with a point if it is no whole number. -/
def positional (whole : List Char) (d : Decimal) : List Char :=
  let digits := Nat.toDigits 10 d.digits
  if 0 ≤ d.exponent then
    digits ++ zeros d.exponent.toNat ++ whole
  else
    let point := (digits.length : Int) + d.exponent
    if 0 < point then
      digits.take point.toNat ++ '.' :: digits.drop point.toNat
    else
      ['0', '.'] ++ zeros (-point).toNat ++ digits

/-- A decimal as one digit, the others after a point, and an exponent with its sign. -/
def scientific (d : Decimal) : List Char :=
  let digits := Nat.toDigits 10 d.digits
  let lead := (digits.length : Int) + d.exponent - 1
  let mantissa :=
    match digits with
    | first :: rest@(_ :: _) => first :: '.' :: rest
    | short => short
  mantissa ++ ['e', if 0 ≤ lead then '+' else '-'] ++ Nat.toDigits 10 lead.natAbs

/-- The written form of a decimal. -/
def decimal (layout : Layout) (d : Decimal) : List Char :=
  let lead := ((Nat.toDigits 10 d.digits).length : Int) + d.exponent - 1
  match layout.plain with
  | none => positional layout.whole.toList d
  | some (least, greatest) =>
    if least ≤ lead ∧ lead ≤ greatest then positional layout.whole.toList d else scientific d

/-- The written form of a finite number; of others the conventional names. -/
def text (layout : Layout) (x : Binary64) : String :=
  let sign := if x.negative then "-" else ""
  if x.isNaN then "NaN"
  else if !x.isFinite then sign ++ "inf"
  else sign ++ String.ofList (layout.decimal (x.shortest layout.tie))

end Layout

end TsqlAlter
