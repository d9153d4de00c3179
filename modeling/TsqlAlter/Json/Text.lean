import TsqlAlter.Json.Error
import TsqlAlter.Text.Utf8

/-!
# Strings in JSON

Between its quotes a JSON string is a row of pieces: characters, and UTF-16 code units written as
`\u` with four hexadecimal digits. `scan` finds the pieces and the closing quote; `decode` joins
surrogate pairs and refuses a surrogate without its partner. A reader of the string needs both, one
that only skips it needs the first.

`encode` writes a string: quote, backslash and the control characters below the space are escaped,
everything else stands for itself.

Results:
* `scan_rest_lt`: what follows the closing quote is shorter than the text.
-/

namespace TsqlAlter.Json.Text

/-- A piece of a string between its quotes. -/
inductive Piece where
  | char (c : Char)
  | unit (code : Nat)
deriving DecidableEq, Repr

/-- The value of a hexadecimal digit of either case. -/
def hexValue? (c : Char) : Option Nat :=
  if c.isDigit then some (c.toNat - 48)
  else if 'a' ≤ c ∧ c ≤ 'f' then some (c.toNat - 87)
  else if 'A' ≤ c ∧ c ≤ 'F' then some (c.toNat - 55)
  else none

/-- The value of four hexadecimal digits. -/
def hexValue4? (a b c d : Char) : Option Nat := do
  let a ← hexValue? a
  let b ← hexValue? b
  let c ← hexValue? c
  let d ← hexValue? d
  return ((a * 16 + b) * 16 + c) * 16 + d

/-- The character that a backslash and a letter stand for. -/
def shortEscape? : Char → Option Char
  | '"' => some '"'
  | '\\' => some '\\'
  | '/' => some '/'
  | 'b' => some '\x08'
  | 'f' => some '\x0c'
  | 'n' => some '\n'
  | 'r' => some '\r'
  | 't' => some '\t'
  | _ => none

/-- Fewer than four bytes are left, counted in UTF-8. -/
def underFourBytes (s : List Char) : Bool :=
  (Text.bytes s).length < 4

/--
The pieces up to the closing quote, and what follows it or why there is none. A code unit needs
four digits: too few bytes for them truncate the text, other characters make it malformed.
-/
def scan : List Char → List Piece × Except Fault (List Char)
  | [] => ([], .error .truncated)
  | c :: rest =>
    if c = '"' then ([], .ok rest)
    else if c = '\\' then
      match rest with
      | [] => ([], .error .truncated)
      | e :: rest =>
        if e = 'u' then
          match rest with
          | x :: y :: z :: w :: rest =>
            match hexValue4? x y z w with
            | some code => ((.unit code) :: (scan rest).1, (scan rest).2)
            | none => ([], .error .malformed)
          | short => ([], .error (if underFourBytes short then .truncated else .malformed))
        else
          match shortEscape? e with
          | some c => ((.char c) :: (scan rest).1, (scan rest).2)
          | none => ([], .error .malformed)
    else if c < ' ' then ([], .error .malformed)
    else ((.char c) :: (scan rest).1, (scan rest).2)

/-- The first half of a surrogate pair. -/
def isHigh (code : Nat) : Bool := 0xD800 ≤ code && code ≤ 0xDBFF

/-- The second half of a surrogate pair. -/
def isLow (code : Nat) : Bool := 0xDC00 ≤ code && code ≤ 0xDFFF

/-- The characters the pieces stand for; none if a surrogate has no partner. -/
def decode : List Piece → Option (List Char)
  | [] => some []
  | .char c :: rest => (decode rest).map (c :: ·)
  | .unit h :: .unit l :: rest =>
    if isHigh h then
      if isLow l then
        (decode rest).map (Char.ofNat (0x10000 + (h - 0xD800) * 0x400 + (l - 0xDC00)) :: ·)
      else none
    else if isLow h then none
    else (decode (.unit l :: rest)).map (Char.ofNat h :: ·)
  | .unit h :: rest =>
    if isHigh h || isLow h then none else (decode rest).map (Char.ofNat h :: ·)

/-- The pieces are sound as far as they go: a last first half may still find its partner. -/
def soundSoFar (pieces : List Piece) : Bool :=
  (decode pieces).isSome ||
    match pieces.getLast? with
    | some (.unit h) => isHigh h && (decode pieces.dropLast).isSome
    | _ => false

/-- The string that ends with the closing quote, or the fault of a reader and that of a skimmer. -/
def close (s : List Char) : (Option String × List Char) ⊕ (Fault × Fault) :=
  match scan s with
  | (pieces, .ok rest) => .inl ((decode pieces).map String.ofList, rest)
  | (pieces, .error f) => .inr (if soundSoFar pieces then f else .malformed, f)

/-- What follows the closing quote is shorter than the text. -/
theorem scan_rest_lt {s rest : List Char} (h : (scan s).2 = .ok rest) :
    rest.length < s.length := by
  fun_induction scan s generalizing rest <;> simp_all <;> grind

theorem close_rest_lt {s rest : List Char} {text : Option String}
    (h : close s = .inl (text, rest)) : rest.length < s.length := by
  unfold close at h
  split at h
  · next hs => cases h; exact scan_rest_lt (by rw [hs])
  · cases h

/-! ## Writing a string -/

/-- The lower-case hexadecimal digit of a number below sixteen. -/
def hexDigit (n : Nat) : Char :=
  if n < 10 then Char.ofNat (48 + n) else Char.ofNat (87 + n)

/-- How one character is written between the quotes. -/
def encodeChar (c : Char) : List Char :=
  if c = '"' then ['\\', '"']
  else if c = '\\' then ['\\', '\\']
  else if c = '\x08' then ['\\', 'b']
  else if c = '\x0c' then ['\\', 'f']
  else if c = '\n' then ['\\', 'n']
  else if c = '\r' then ['\\', 'r']
  else if c = '\t' then ['\\', 't']
  else if c < ' ' then ['\\', 'u', '0', '0', hexDigit (c.toNat / 16), hexDigit (c.toNat % 16)]
  else [c]

/-- A string in its quotes. -/
def encode (s : String) : List Char :=
  '"' :: s.toList.flatMap encodeChar ++ ['"']

end TsqlAlter.Json.Text
