import TsqlAlter.Error
import TsqlAlter.Schema.DefaultValue
import TsqlAlter.Sql.Name
import TsqlAlter.Text.Blank
import TsqlAlter.Text.Utf8

/-!
# Default values in SQL

A default is written as an SQL literal. A string that is not all ASCII is marked as a national one,
an expression stands for itself, and a number that is not finite or an expression of blanks only has
no literal.

Results:
* `isOk_ofDefault`: exactly the defaults called resolvable have a literal.
-/

namespace TsqlAlter.Sql

/-- The literal of a string, marked as a national one unless it is ASCII. -/
def stringLiteral (s : String) : String :=
  if Text.isAscii s.toList then literal s else "N" ++ literal s

/-- The default has a literal. -/
def isResolvable : DefaultValue → Bool
  | .float x => x.isFinite
  | .expression sql => !Text.allBlank sql.toList
  | _ => true

/-- The literal of a default, for a column named in errors. -/
def ofDefault (column : String) : DefaultValue → Except Error String
  | .null => .ok "NULL"
  | .boolean b => .ok (if b then "1" else "0")
  | .integer i => .ok (toString i.toInt)
  | .float x =>
    if x.isFinite then .ok (sqlNumberLayout.text x)
    else .error (.unresolvableDefault column (.notFinite x))
  | .string s => .ok (stringLiteral s)
  | .expression sql =>
    if Text.allBlank sql.toList then .error (.unresolvableDefault column .blankExpression)
    else .ok sql

/-- Exactly the resolvable defaults have a literal. -/
theorem isOk_ofDefault (column : String) (d : DefaultValue) :
    (ofDefault column d).isOk = isResolvable d := by
  cases d <;> simp only [ofDefault, isResolvable]
  case float x => cases x.isFinite <;> rfl
  case expression sql => cases Text.allBlank sql.toList <;> rfl
  all_goals rfl

end TsqlAlter.Sql
