import TsqlAlter.Json.Text

/-!
# Writing JSON

A value is written without blanks, members in the given order. A number that is not finite has no
JSON form and is written as null.

Results:
* `chars_array`, `chars_object`: brackets around what is written for the items and members.

Left out: written forms with blanks or with the members in another order. One form is written.
-/

namespace TsqlAlter.Json

/-- A value to be written. -/
inductive Value where
  | null
  | bool (b : Bool)
  | integer (i : Int)
  | float (x : Binary64)
  | string (s : String)
  | array (items : List Value)
  | object (members : List (String × Value))

mutual

/-- The written form of a value. -/
def Value.chars : Value → List Char
  | .null => ['n', 'u', 'l', 'l']
  | .bool true => ['t', 'r', 'u', 'e']
  | .bool false => ['f', 'a', 'l', 's', 'e']
  | .integer i => (toString i).toList
  | .float x => if x.isFinite then (numberLayout.text x).toList else ['n', 'u', 'l', 'l']
  | .string s => Text.encode s
  | .array items => '[' :: charsItems items ++ [']']
  | .object members => '\x7b' :: charsMembers members ++ ['\x7d']

/-- Values separated by commas. -/
def charsItems : List Value → List Char
  | [] => []
  | [v] => v.chars
  | v :: w :: more => v.chars ++ ',' :: charsItems (w :: more)

/-- Members separated by commas. -/
def charsMembers : List (String × Value) → List Char
  | [] => []
  | [(key, v)] => Text.encode key ++ ':' :: v.chars
  | (key, v) :: m :: more => Text.encode key ++ ':' :: v.chars ++ ',' :: charsMembers (m :: more)

end

namespace Value

/-- The text of a value. -/
def text (v : Value) : String := String.ofList v.chars

/-- A value that may be absent. -/
def option {α : Type} (f : α → Value) : Option α → Value
  | none => .null
  | some a => f a

/-- A natural number. -/
def nat (n : Nat) : Value := .integer n

theorem chars_array (items : List Value) :
    (Value.array items).chars = '[' :: charsItems items ++ [']'] := by rw [Value.chars]

theorem chars_object (members : List (String × Value)) :
    (Value.object members).chars = '\x7b' :: charsMembers members ++ ['\x7d'] := by
  rw [Value.chars]

end Value

end TsqlAlter.Json
