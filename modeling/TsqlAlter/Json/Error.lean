import TsqlAlter.Number.Layout
import TsqlAlter.Text.Quoted

/-!
# What can be wrong with a JSON text

A text fails to be read for one of three reasons: it is malformed, it ends too soon, or it is JSON
(so far) but does not have the shape asked for. The last reason is a `Mismatch`, whose message
names what was found and what was expected.

Left out: the line and column where a text is malformed, and which rule of JSON it breaks. All such
texts are refused with one wording, and so are all that end too soon.
-/

namespace TsqlAlter.Json

/-- How numbers stand in a JSON text: plain from 0.00001 to below 10^16, ties to the even digit. -/
def numberLayout : Layout := ⟨.even, some (-5, 15), ".0"⟩

/-- Where a text stops being JSON. -/
inductive Fault where
  /-- A character stands where it may not. -/
  | malformed
  /-- The text ends where more has to follow. -/
  | truncated
deriving DecidableEq, Repr

/-- What was found where something else was expected. -/
inductive Found where
  | null
  | boolean (b : Bool)
  | integer (i : Int)
  | float (x : Binary64)
  | string (s : String)
  | sequence
  | map
  /-- The bare name of a variant that carries a value. -/
  | bareVariant
deriving DecidableEq, Repr

/-- The words for what was found. -/
def Found.text : Found → String
  | .null => "null"
  | .boolean b => "boolean `" ++ (if b then "true" else "false") ++ "`"
  | .integer i => "integer `" ++ toString i ++ "`"
  | .float x => "floating point `" ++ numberLayout.text x ++ "`"
  | .string s => "string " ++ Text.quoted s
  | .sequence => "sequence"
  | .map => "map"
  | .bareVariant => "unit variant"

/-- JSON of another shape than the one asked for. -/
inductive Mismatch where
  | invalidType (found : Found) (expected : String)
  | invalidValue (found : Found) (expected : String)
  | invalidLength (length : Nat) (expected : String)
  | unknownField (name : String) (known : List String)
  | unknownVariant (name : String) (known : List String)
  | missingField (name : String)
  | duplicateField (name : String)
deriving DecidableEq, Repr

/-- Names in backquotes, separated by commas. -/
def oneOf (names : List String) : String :=
  "one of " ++ ", ".intercalate (names.map fun name => "`" ++ name ++ "`")

/-- The message that describes a mismatch. -/
def Mismatch.message : Mismatch → String
  | .invalidType found expected => "invalid type: " ++ found.text ++ ", expected " ++ expected
  | .invalidValue found expected => "invalid value: " ++ found.text ++ ", expected " ++ expected
  | .invalidLength length expected =>
    "invalid length " ++ toString length ++ ", expected " ++ expected
  | .unknownField name known => "unknown field `" ++ name ++ "`, expected " ++ oneOf known
  | .unknownVariant name known => "unknown variant `" ++ name ++ "`, expected " ++ oneOf known
  | .missingField name => "missing field `" ++ name ++ "`"
  | .duplicateField name => "duplicate field `" ++ name ++ "`"

/-- Why a text could not be read. -/
inductive ReadError where
  | fault (fault : Fault)
  | mismatch (mismatch : Mismatch)
deriving DecidableEq, Repr

/-- The message for a text that could not be read. -/
def ReadError.message : ReadError → String
  | .fault .malformed => "malformed JSON text"
  | .fault .truncated => "unexpected end of the JSON text"
  | .mismatch m => m.message

end TsqlAlter.Json
