import TsqlAlter.Json.Token

/-!
# What a text holds, as far as it can be read

A text is read strictly from left to right, and the first thing wrong with it decides how reading
ends. `Tree` therefore keeps what was read before a text breaks: a broken value is a leaf, and an
array or object records how it ends. A decoder that walks the tree in text order meets a shape it
does not expect before it meets a break further on.

The tree is built by feeding the tokens one by one to a machine with an explicit stack of open
arrays and objects, so nesting may be of any depth. Nothing is read past a break.

Left out: a limit on how deep arrays and objects may be nested.
-/

namespace TsqlAlter.Json

/-- How an array or object ends. -/
inductive Ending where
  /-- With its bracket. -/
  | closed
  /-- After an item, with something else than a comma or its bracket. -/
  | cut (f : Fault)
  /-- With something else than a key. -/
  | noKey (b : Break)

/-- What a text holds. Keys and strings with a surrogate without partner have no value. -/
inductive Tree where
  | null
  | bool (b : Bool)
  | number (n : Number)
  | string (s : String)
  /-- A string without value, or a number that is too large. -/
  | unusable
  | broken (b : Break)
  | array (items : List Tree) (ending : Ending)
  | object (members : List (Option String × Tree)) (ending : Ending)

/-! ## Skipping a value -/

/-- The fault of an ending for one who skips the value. -/
def Ending.skim : Ending → Except Fault Unit
  | .closed => .ok ()
  | .cut f => .error f
  | .noKey b => .error b.skim

/-- The fault of an ending for a reader. -/
def Ending.read : Ending → Except Fault Unit
  | .closed => .ok ()
  | .cut f => .error f
  | .noKey b => .error b.read

mutual

/-- Skips a value, whatever its shape. -/
def Tree.skim : Tree → Except Fault Unit
  | .null => .ok ()
  | .bool _ => .ok ()
  | .number _ => .ok ()
  | .string _ => .ok ()
  | .unusable => .ok ()
  | .broken b => .error b.skim
  | .array items ending => do skimItems items; ending.skim
  | .object members ending => do skimMembers members; ending.skim

/-- Skips values one after the other. -/
def skimItems : List Tree → Except Fault Unit
  | [] => .ok ()
  | t :: more => do t.skim; skimItems more

/-- Skips the values of members one after the other. -/
def skimMembers : List (Option String × Tree) → Except Fault Unit
  | [] => .ok ()
  | (_, t) :: more => do t.skim; skimMembers more

end

/-! ## Building the tree -/

/-- An array or object that is still open, newest item first. -/
inductive Frame where
  | array (items : List Tree)
  /-- An object whose member `key` waits for its value. -/
  | object (members : List (Option String × Tree)) (key : Option String)

/-- What the machine expects next. -/
inductive Reading where
  /-- A value. -/
  | value (stack : List Frame)
  /-- The first item of an array, or its end. -/
  | item (stack : List Frame)
  /-- A key, or the end of an object without members. -/
  | key (members : List (Option String × Tree)) (stack : List Frame)
  /-- The colon after a key. -/
  | colon (members : List (Option String × Tree)) (key : Option String) (stack : List Frame)
  /-- What comes after a complete value. -/
  | after (t : Tree) (stack : List Frame)
  /-- Nothing: the text broke in this tree. -/
  | stopped (t : Tree)
  /-- Nothing: the text goes on after the value. -/
  | overrun (t : Tree)

/-- The whole tree, when the text breaks in a value inside these frames. -/
def sealed (t : Tree) : List Frame → Tree
  | [] => t
  | .array items :: stack => sealed (.array (items.reverse ++ [t]) (.cut .truncated)) stack
  | .object members key :: stack =>
    sealed (.object (members.reverse ++ [(key, t)]) (.cut .truncated)) stack

/-- Begins a value with a token. -/
def begun (stack : List Frame) : Token → Reading
  | .null => .after .null stack
  | .bool b => .after (.bool b) stack
  | .number (some n) => .after (.number n) stack
  | .number none => .after .unusable stack
  | .string (some s) => .after (.string s) stack
  | .string none => .after .unusable stack
  | .beginArray => .item stack
  | .beginObject => .key [] stack
  | .broken b => .stopped (sealed (.broken b) stack)
  | .endArray => .stopped (sealed (.broken .stray) stack)
  | .endObject => .stopped (sealed (.broken .stray) stack)
  | .colon => .stopped (sealed (.broken .stray) stack)
  | .comma => .stopped (sealed (.broken .stray) stack)

/-- What breaks at a token in the place of a key: a key begins with a quote. -/
def notKey : Token → Break
  | .broken (.string read skim) => .string read skim
  | _ => .stray

/-- Continues after a complete value. -/
def continued (t : Tree) : List Frame → Token → Reading
  | [], _ => .overrun t
  | .array items :: stack, token =>
    match token with
    | .comma => .value (.array (t :: items) :: stack)
    | .endArray => .after (.array (t :: items).reverse .closed) stack
    | _ => .stopped (sealed (.array (t :: items).reverse (.cut .malformed)) stack)
  | .object members key :: stack, token =>
    match token with
    | .comma => .key ((key, t) :: members) stack
    | .endObject => .after (.object ((key, t) :: members).reverse .closed) stack
    | _ => .stopped (sealed (.object ((key, t) :: members).reverse (.cut .malformed)) stack)

/-- Takes one token. -/
def step : Reading → Token → Reading
  | .value stack, token => begun stack token
  | .item stack, token =>
    match token with
    | .endArray => .after (.array [] .closed) stack
    | token => begun (.array [] :: stack) token
  | .key members stack, token =>
    match token, members with
    | .string s, _ => .colon members s stack
    | .endObject, [] => .after (.object [] .closed) stack
    | token, _ => .stopped (sealed (.object members.reverse (.noKey (notKey token))) stack)
  | .colon members key stack, token =>
    match token with
    | .colon => .value (.object members key :: stack)
    | _ =>
      .stopped (sealed (.object ((key, .broken .stray) :: members).reverse (.cut .malformed)) stack)
  | .after t stack, token => continued t stack token
  | .stopped t, _ => .stopped t
  | .overrun t, _ => .overrun t

/-- A tree, and whether the text goes on after it. -/
structure Document where
  root : Tree
  overrun : Bool

/-- The tree at the end of the text. -/
def finished : Reading → Document
  | .value stack => ⟨sealed (.broken .ended) stack, false⟩
  | .item stack => ⟨sealed (.broken .ended) (.array [] :: stack), false⟩
  | .key members stack =>
    ⟨sealed (.object members.reverse (.noKey .ended)) stack, false⟩
  | .colon members key stack => ⟨sealed (.broken .ended) (.object members key :: stack), false⟩
  | .after t [] => ⟨t, false⟩
  | .after t (.array items :: stack) =>
    ⟨sealed (.array (t :: items).reverse (.cut .truncated)) stack, false⟩
  | .after t (.object members key :: stack) =>
    ⟨sealed (.object ((key, t) :: members).reverse (.cut .truncated)) stack, false⟩
  | .stopped t => ⟨t, false⟩
  | .overrun t => ⟨t, true⟩

/-- Takes tokens one after the other. -/
def run (reading : Reading) (tokens : List Token) : Reading := tokens.foldl step reading

/-- What a text holds. -/
def Document.ofText (text : String) : Document :=
  finished (run (.value []) (tokens text.toList))

end TsqlAlter.Json
