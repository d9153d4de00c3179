/-!
# UTF-8

The bytes of a text, and the letter case of its ASCII letters.

Results:
* `bytes_inj`: different texts have different bytes.
-/

namespace TsqlAlter.Text

/-- The UTF-8 bytes of a text. -/
def bytes (s : List Char) : List UInt8 := s.flatMap String.utf8EncodeChar

/-- Different texts have different bytes. -/
theorem bytes_inj {s t : List Char} : bytes s = bytes t ↔ s = t := by
  refine ⟨fun h => ?_, fun h => h ▸ rfl⟩
  have encoded : s.utf8Encode = t.utf8Encode := congrArg List.toByteArray h
  rw [← String.toByteArray_ofList, ← String.toByteArray_ofList, String.toByteArray_inj] at encoded
  exact String.ofList_inj.1 encoded

/-- Made of ASCII characters only. -/
def isAscii (s : List Char) : Bool := s.all fun c => c.toNat < 128

/-- A text with its ASCII capital letters in lower case; all other characters stay. -/
def lower (s : String) : String := String.ofList (s.toList.map Char.toLower)

end TsqlAlter.Text
