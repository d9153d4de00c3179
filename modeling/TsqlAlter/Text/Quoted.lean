import TsqlAlter.Text.Visible

/-!
# Text quoted for a message

A text quoted in a message stands between double quotes. A quote or backslash is preceded by a
backslash, the usual short escapes stand for tab, line feed, carriage return and NUL, and every
other character that does not show on its own is written as its code point, `\u{..}` in
hexadecimal. A single quote stays as it is.
-/

namespace TsqlAlter.Text

/-- The lower-case hexadecimal numeral of a number. -/
def hex (n : Nat) : List Char := Nat.toDigits 16 n

/-- How one character is written inside the quotes. -/
def escaped (c : Char) : List Char :=
  if c = '"' then ['\\', '"']
  else if c = '\\' then ['\\', '\\']
  else if c = '\t' then ['\\', 't']
  else if c = '\n' then ['\\', 'n']
  else if c = '\r' then ['\\', 'r']
  else if c = '\x00' then ['\\', '0']
  else if isVisible c then [c]
  else ['\\', 'u', '\x7b'] ++ hex c.toNat ++ ['\x7d']

/-- A text in double quotes. -/
def quoted (s : String) : String :=
  String.ofList ('"' :: s.toList.flatMap escaped ++ ['"'])

end TsqlAlter.Text
