import TsqlAlter.Number.Binary64

/-!
# Default values

The default of a column is a value or an SQL expression. An explicit null is a default of its own,
apart from no default at all, but needs no constraint.

`DefaultValue.agree` compares two defaults by value: numbers as numbers, so the two zeros agree and
a NaN agrees with nothing.

Results:
* `agree_iff_eq`: without floating-point values, agreement is equality.
-/

namespace TsqlAlter

/-- A default value. -/
inductive DefaultValue where
  | null
  | boolean (b : Bool)
  | integer (i : Int64)
  | float (x : Binary64)
  | string (s : String)
  /-- SQL text that the server evaluates. -/
  | expression (sql : String)
deriving DecidableEq, Repr

namespace DefaultValue

/-- A floating-point value. -/
def isFloat : DefaultValue → Bool
  | float _ => true
  | _ => false

/-- Equal as values. -/
def agree : DefaultValue → DefaultValue → Bool
  | float x, float y => x.agree y
  | d, e => d == e

/-- Without floating-point values, agreement is equality. -/
theorem agree_iff_eq {d e : DefaultValue} (h : d.isFloat = false) :
    d.agree e = true ↔ d = e := by
  cases d <;> simp_all [agree, isFloat]

end DefaultValue

end TsqlAlter
