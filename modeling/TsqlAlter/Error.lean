import TsqlAlter.Json.Error

/-!
# What can go wrong

Errors are causes; `Error.message` gives their wording. Statements fail to be written for a type
without SQL counterpart or a default without literal, a release is not found for a version, and a
file cannot be read or does not hold what it should.
-/

namespace TsqlAlter

/-- Why a default has no literal. -/
inductive NoLiteral where
  /-- A number that is not finite. -/
  | notFinite (x : Binary64)
  /-- An expression of blanks only. -/
  | blankExpression
deriving DecidableEq, Repr

/-- The layout of numbers in SQL text: no exponent, no fraction on whole numbers, ties up. -/
def sqlNumberLayout : Layout := ⟨.up, none, ""⟩

/-- The words for a missing literal. -/
def NoLiteral.message : NoLiteral → String
  | notFinite x => sqlNumberLayout.text x ++ " has no SQL literal"
  | blankExpression => "empty default expression"

/-- Why a file could not be read. -/
inductive FileError where
  /-- A failure that the operating system reports, with its number. -/
  | system (reason : String) (code : Nat)
  /-- The bytes of the file are no text. -/
  | notText
deriving DecidableEq, Repr

namespace FileError

/-- There is no such file. -/
def absent : FileError := system "No such file or directory" 2

/-- The file is a directory. -/
def directory : FileError := system "Is a directory" 21

/-- The wording of a file error. -/
def message : FileError → String
  | system reason code => reason ++ " (os error " ++ toString code ++ ")"
  | notText => "stream did not contain valid UTF-8"

end FileError

/-- What can go wrong. -/
inductive Error where
  /-- The type of a column has no SQL counterpart. -/
  | unrenderableType (column type : String)
  /-- The default of a column has no literal. -/
  | unresolvableDefault (column : String) (reason : NoLiteral)
  /-- No release belongs to a version. -/
  | invalidVersion (version : String)
  /-- A file cannot be read. -/
  | file (error : FileError)
  /-- A text is not the JSON asked for. -/
  | json (error : Json.ReadError)
deriving DecidableEq, Repr

/-- The wording of an error. -/
def Error.message : Error → String
  | unrenderableType column type =>
    "Cannot render type '" ++ type ++ "' for column '" ++ column ++ "'"
  | unresolvableDefault column reason =>
    "Cannot render default value for column '" ++ column ++ "': " ++ reason.message
  | invalidVersion version => "Invalid server version: " ++ version
  | file error => "IO error: " ++ error.message
  | json error => "Serialization error: " ++ error.message

end TsqlAlter
