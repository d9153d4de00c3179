import TsqlAlter.Json.Numeral
import TsqlAlter.Json.Text

/-!
# JSON tokens

A text is cut into tokens from left to right; blanks separate them. Cutting stops at the first
token that is broken, which is then the last one. What is broken decides who fails how (`Break`): a
value that is only skipped is held to laxer rules than one that is read, since its strings may hold
surrogates without partner and its numbers may be too large, and a reader of a name looks at the
first character only.

Results:
* `next_rest_le`: a token takes at least its first character.
-/

namespace TsqlAlter.Json

/-- What a text breaks in. -/
inductive Break where
  /-- A word that begins as null does. -/
  | null (f : Fault)
  /-- A word that begins as a truth value does. -/
  | bool (f : Fault)
  | number (f : Fault)
  /-- A string without closing quote; what is wrong before its end troubles a reader only. -/
  | string (read skim : Fault)
  /-- A character that begins no value. -/
  | stray
  /-- The end of the text, where a value should begin. -/
  | ended
deriving DecidableEq, Repr

namespace Break

/-- How a reader of a value fails. -/
def read : Break → Fault
  | null f => f
  | bool f => f
  | number f => f
  | string read _ => read
  | stray => .malformed
  | ended => .truncated

/-- How one who skips the value fails; a number cut short is malformed there. -/
def skim : Break → Fault
  | number _ => .malformed
  | string _ skim => skim
  | b => b.read

/-- How a reader of a name fails, to whom nothing but a quote or a brace is right. -/
def named : Break → Fault
  | string read _ => read
  | ended => .truncated
  | _ => .malformed

end Break

/-- A token of JSON text. -/
inductive Token where
  | beginArray
  | endArray
  | beginObject
  | endObject
  | colon
  | comma
  | null
  | bool (b : Bool)
  /-- A number; none if it is too large. -/
  | number (n : Option Number)
  /-- A string; none if a surrogate has no partner. -/
  | string (s : Option String)
  /-- Text that is no token. -/
  | broken (b : Break)
deriving DecidableEq, Repr

namespace Token

/-- White space between tokens. -/
def isSpace (c : Char) : Bool := c == ' ' || c == '\n' || c == '\t' || c == '\r'

/-- Takes the letters of a word off the text. -/
def word : List Char → List Char → Except Fault (List Char)
  | [], rest => .ok rest
  | _ :: _, [] => .error .truncated
  | e :: expected, c :: rest => if c = e then word expected rest else .error .malformed

/-- The token that is this word, with what follows it, or the break in it. -/
def ofWord (letters : List Char) (token : Token) (broken : Fault → Break) (rest : List Char) :
    Token × List Char :=
  match word letters rest with
  | .ok rest => (token, rest)
  | .error f => (.broken (broken f), [])

/-- The string token after an opening quote. -/
def ofString (s : List Char) : Token × List Char :=
  match Text.close s with
  | .inl (text, rest) => (.string text, rest)
  | .inr (read, skim) => (.broken (.string read skim), [])

/-- The number token. -/
def ofNumeral (s : List Char) : Token × List Char :=
  match Numeral.scan s with
  | .ok (numeral, rest) => (.number numeral.number?, rest)
  | .error f => (.broken (.number f), [])

/-- The token that is a single character. -/
def punctuation? : Char → Option Token
  | '[' => some .beginArray
  | ']' => some .endArray
  | '\x7b' => some .beginObject
  | '\x7d' => some .endObject
  | ':' => some .colon
  | ',' => some .comma
  | _ => none

/-- The token that begins with `c`, and the text after it. -/
def next (c : Char) (rest : List Char) : Token × List Char :=
  match punctuation? c with
  | some token => (token, rest)
  | none =>
    if c = '"' then ofString rest
    else if c = 'n' then ofWord ['u', 'l', 'l'] .null .null rest
    else if c = 't' then ofWord ['r', 'u', 'e'] (.bool true) .bool rest
    else if c = 'f' then ofWord ['a', 'l', 's', 'e'] (.bool false) .bool rest
    else if c = '-' ∨ c.isDigit then ofNumeral (c :: rest)
    else (.broken .stray, [])

theorem word_rest_le {letters s rest : List Char} (h : word letters s = .ok rest) :
    rest.length ≤ s.length := by
  induction letters generalizing s with
  | nil => cases h; exact Nat.le_refl _
  | cons e letters ih =>
    cases s with
    | nil => cases h
    | cons c s =>
      unfold word at h
      split at h
      · exact Nat.le_succ_of_le (ih h)
      · cases h

theorem ofWord_rest_le (letters : List Char) (token : Token) (broken : Fault → Break)
    (s : List Char) : (ofWord letters token broken s).2.length ≤ s.length := by
  unfold ofWord
  split
  · next h => exact word_rest_le h
  · simp

theorem ofString_rest_le (s : List Char) : (ofString s).2.length ≤ s.length := by
  unfold ofString
  split
  · next h => exact Nat.le_of_lt (Text.close_rest_lt h)
  · simp

theorem ofNumeral_rest_le (c : Char) (s : List Char) :
    (ofNumeral (c :: s)).2.length ≤ s.length := by
  unfold ofNumeral
  split
  · next h => exact Nat.le_of_lt_succ (Numeral.scan_rest_lt h)
  · simp

/-- A token takes at least its first character. -/
theorem next_rest_le (c : Char) (rest : List Char) : (next c rest).2.length ≤ rest.length := by
  unfold next
  cases punctuation? c with
  | some token => exact Nat.le_refl _
  | none =>
    dsimp only
    split; · exact ofString_rest_le _
    split; · exact ofWord_rest_le ..
    split; · exact ofWord_rest_le ..
    split; · exact ofWord_rest_le ..
    split; · exact ofNumeral_rest_le ..
    simp

end Token

/-- The tokens of a text. -/
def tokens (s : List Char) : List Token :=
  match _h : s.dropWhile Token.isSpace with
  | [] => []
  | c :: rest => (Token.next c rest).1 :: tokens (Token.next c rest).2
termination_by s.length
decreasing_by
  have h1 := Token.next_rest_le c rest
  have h2 : (c :: rest).length ≤ s.length := _h ▸ (List.dropWhile_suffix _).length_le
  simp only [List.length_cons] at h2
  omega

end TsqlAlter.Json
