import TsqlAlter.Error
import TsqlAlter.Json.Decode
import TsqlAlter.Json.Value
import TsqlAlter.Text.Blank
import TsqlAlter.Text.Numeral

/-!
# Server releases

Four releases of the server differ in the types they know. A server's version text selects one by
its major number, which stands before the first point; blanks around the text do not count.

Results:
* `knowsMax_iff`: which releases know types of unlimited length.
* `ofMajor_mono`: a later major number never selects an older release.
* `ofVersion?_eq_none_iff`: which texts select no release.

Left out: what stands behind the first point of a version. No release differs in it.
-/

namespace TsqlAlter

/-- A release of the server, by what it knows. -/
inductive Release where
  | sql2000
  | sql2005
  | sql2008
  | sql2012
deriving DecidableEq, Repr

namespace Release

/-- The releases, oldest first. -/
def all : List Release := [sql2000, sql2005, sql2008, sql2012]

/-- The place of a release among all, oldest first. -/
def rank : Release → Nat
  | sql2000 => 0
  | sql2005 => 1
  | sql2008 => 2
  | sql2012 => 3

/-- The release that is meant when none is named. -/
def newest : Release := sql2012

/-- The platform name of a release. -/
def name : Release → String
  | sql2000 => "mssql"
  | sql2005 => "mssql2005"
  | sql2008 => "mssql2008"
  | sql2012 => "mssql2012"

/-- The release knows types of the greatest length, `MAX`. -/
def knowsMax (r : Release) : Bool := sql2005.rank ≤ r.rank

/-- The release knows dates, times and offsets as types of their own. -/
def knowsTemporal (r : Release) : Bool := sql2008.rank ≤ r.rank

theorem knowsMax_iff (r : Release) : r.knowsMax = true ↔ r ≠ sql2000 := by
  cases r <;> decide

/-- The release of a major version number. -/
def ofMajor (major : Nat) : Release :=
  if major ≤ 8 then sql2000
  else if major = 9 then sql2005
  else if major = 10 then sql2008
  else sql2012

/-- A later major number never selects an older release. -/
theorem ofMajor_mono {m n : Nat} (h : m ≤ n) : (ofMajor m).rank ≤ (ofMajor n).rank := by
  unfold ofMajor
  repeat' split
  all_goals first | omega | decide

/-- The text before the first point of a version, without the blanks around the version. -/
def majorText (version : String) : List Char :=
  (Text.trim version.toList).takeWhile (· != '.')

/-- The release that a version text selects. -/
def ofVersion? (version : String) : Option Release :=
  (Text.unsigned? UInt32.size (majorText version)).map ofMajor

/-- The release that a version text selects, or the error that none does. -/
def ofVersion (version : String) : Except Error Release :=
  match ofVersion? version with
  | some r => .ok r
  | none => .error (.invalidVersion version)

/-- A text selects no release exactly when its major number is no numeral of
thirty-two bits. -/
theorem ofVersion?_eq_none_iff (version : String) :
    ofVersion? version = none ↔ Text.unsigned? UInt32.size (majorText version) = none := by
  simp [ofVersion?]

/-- The name of a release in JSON. -/
def jsonName : Release → String
  | sql2000 => "sql_server"
  | sql2005 => "sql_server2005"
  | sql2008 => "sql_server2008"
  | sql2012 => "sql_server2012"

/-- Reads a release from its name. -/
def decode : Json.Decoder Release := .enumeration (all.map fun r => (r.jsonName, r))

/-- The JSON form of a release. -/
def toJson (r : Release) : Json.Value := .string r.jsonName

end Release

end TsqlAlter
