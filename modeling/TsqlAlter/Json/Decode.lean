import TsqlAlter.Json.Tree

/-!
# Reading values from JSON

A decoder turns a tree into a value or says what is wrong with it. Decoders walk a tree in text
order, so of several faults the first in the text is reported.

* Scalars, options, lists, pairs and maps.
* `choice`: a name among several, bare or as the only key of an object; the key may carry a value.
* `Format`: a record with named fields, from an object, or from an array in the declared order. A
  field is given once; other keys are skipped, or refused by a strict format.

Results:
* `Decoder.named_eq_ok_iff`: a name stands for the first value it is listed with.
-/

namespace TsqlAlter.Json

/-- Reads a value from a tree. -/
abbrev Decoder (α : Type) := Tree → Except ReadError α

/-- Turns a fault into a reading error. -/
def faulty {α : Type} : Except Fault α → Except ReadError α
  | .ok a => .ok a
  | .error f => .error (.fault f)

/-- What a tree is, for a message. -/
def Tree.found : Tree → Except Fault Found
  | .null => .ok .null
  | .bool b => .ok (.boolean b)
  | .number (.integer i) => .ok (.integer i)
  | .number (.float x) => .ok (.float x)
  | .string s => .ok (.string s)
  | .unusable => .error .malformed
  | .broken b => .error b.read
  | .array _ _ => .ok .sequence
  | .object _ _ => .ok .map

namespace Decoder

variable {α β κ : Type}

/-- Refuses a tree of the wrong kind. -/
def refuse (expected : String) : Decoder α := fun t =>
  match t.found with
  | .ok found => .error (.mismatch (.invalidType found expected))
  | .error f => .error (.fault f)

/-- A value read with `d`, through `f`. -/
def map (f : α → β) (d : Decoder α) : Decoder β := fun t => (d t).map f

/-- A string. -/
def string : Decoder String
  | .string s => .ok s
  | t => refuse "a string" t

/-- A truth value. -/
def bool : Decoder Bool
  | .bool b => .ok b
  | t => refuse "a boolean" t

/-- An integer between two bounds, under the name of its type. -/
def integer (type : String) (least greatest : Int) : Decoder Int
  | .number (.integer i) =>
    if least ≤ i ∧ i ≤ greatest then .ok i
    else .error (.mismatch (.invalidValue (.integer i) type))
  | t => refuse type t

/-- An unsigned integer of eight bits. -/
def uint8 : Decoder UInt8 := map (fun i => UInt8.ofNat i.toNat) (integer "u8" 0 255)

/-- An unsigned integer of sixteen bits. -/
def uint16 : Decoder UInt16 := map (fun i => UInt16.ofNat i.toNat) (integer "u16" 0 65535)

/-- An unsigned integer of thirty-two bits. -/
def uint32 : Decoder UInt32 := map (fun i => UInt32.ofNat i.toNat) (integer "u32" 0 4294967295)

/-- A signed integer of sixty-four bits. -/
def int64 : Decoder Int64 :=
  map Int64.ofInt (integer "i64" (-0x8000000000000000) 0x7FFFFFFFFFFFFFFF)

/-- A binary64 number; an integer is rounded to the nearest one. -/
def float : Decoder Binary64
  | .number (.integer i) => .ok (.ofInt i)
  | .number (.float x) => .ok x
  | t => refuse "f64" t

/-- Nothing but the value null. -/
def unit : Decoder Unit
  | .null => .ok ()
  | t => refuse "unit" t

/-- A value that may be null; what begins as null does is taken for it. -/
def option (d : Decoder α) : Decoder (Option α)
  | .null => .ok none
  | .broken (.null f) => .error (.fault f)
  | t => (d t).map some

/-- A list of values. -/
def list (d : Decoder α) : Decoder (List α)
  | .array items ending => do
    let values ← items.mapM d
    faulty ending.read
    return values
  | t => refuse "a sequence" t

/-- An array of exactly two values. -/
def pair (first : Decoder α) (second : Decoder β) : Decoder (α × β)
  | .array [] ending => do
    faulty ending.read
    throw (.mismatch (.invalidLength 0 "a tuple of size 2"))
  | .array [a] ending => do
    let _ ← first a
    faulty ending.read
    throw (.mismatch (.invalidLength 1 "a tuple of size 2"))
  | .array (a :: b :: more) ending => do
    let a ← first a
    let b ← second b
    if more.isEmpty then faulty ending.read else throw (.fault .malformed)
    return (a, b)
  | t => refuse "a tuple of size 2" t

/-- One member of a map. -/
def entry (key : String → Except ReadError κ) (d : Decoder α) :
    Option String × Tree → Except ReadError (κ × α)
  | (none, _) => .error (.fault .malformed)
  | (some k, t) => do
    let k ← key k
    let a ← d t
    return (k, a)

/-- An object as its members in text order, with keys of one kind and values of another. -/
def entries (key : String → Except ReadError κ) (d : Decoder α) : Decoder (List (κ × α))
  | .object members ending => do
    let values ← members.mapM (entry key d)
    faulty ending.read
    return values
  | t => refuse "a map" t

/-! ## A choice among names -/

/-- A name that stands for a value. -/
def named (choices : List (String × α)) (name : String) : Except ReadError α :=
  match choices.lookup name with
  | some a => .ok a
  | none => .error (.mismatch (.unknownVariant name (choices.map (·.1))))

theorem named_eq_ok_iff {choices : List (String × α)} {name : String} {a : α} :
    named choices name = .ok a ↔ choices.lookup name = some a := by
  unfold named
  cases choices.lookup name <;> simp

/--
A choice among names. Each name is followed by a decoder for what a bare name means, and one for
the value under the name in an object with this one key.
-/
def choice (choices : List (String × (Except ReadError α × Decoder α))) : Decoder α
  | .string name => do
    let (bare, _) ← named choices name
    bare
  | .object [] (.noKey b) => .error (.fault b.read)
  | .object ((some name, t) :: more) ending => do
    let (_, carried) ← named choices name
    let a ← carried t
    match more, ending with
    | [], .closed => return a
    | [], .cut f => throw (.fault f)
    | _, _ => throw (.fault .malformed)
  | .broken b => .error (.fault b.named)
  | _ => .error (.fault .malformed)

/-- A choice among names that carry nothing. -/
def enumeration (choices : List (String × α)) : Decoder α :=
  choice (choices.map fun (name, a) => (name, .ok a, map (fun _ => a) unit))

end Decoder

/-! ## Records -/

/-- How a record is read. -/
structure Format (α : Type) where
  /-- What the record is called in a message. -/
  title : String
  /-- Its keys in declared order. -/
  keys : List String
  /-- The keys that must be given, in declared order. -/
  required : List String
  /-- Refuses keys of other names. -/
  strict : Bool
  /-- The record before any field is read. -/
  blank : α
  /-- Reads the field of a key into the record. -/
  put : String → Tree → α → Except ReadError α

namespace Format

variable {α : Type}

/-- Reads one member into the record; `seen` are the keys read so far. -/
def member (f : Format α) (state : α × List String) :
    Option String × Tree → Except ReadError (α × List String)
  | (none, _) => .error (.fault .malformed)
  | (some key, t) =>
    if key ∈ f.keys then
      if key ∈ state.2 then .error (.mismatch (.duplicateField key))
      else (f.put key t state.1).map fun a => (a, key :: state.2)
    else if f.strict then .error (.mismatch (.unknownField key f.keys))
    else (faulty t.skim).map fun _ => state

/-- Reads the items of an array into the fields, in declared order. -/
def place (f : Format α) (a : α) : List (String × Tree) → Except ReadError α
  | [] => .ok a
  | (key, t) :: more => do f.place (← f.put key t a) more

/-- Reads a record. -/
def decode (f : Format α) : Decoder α
  | .object members ending => do
    let (a, seen) ← members.foldlM f.member (f.blank, [])
    faulty ending.read
    match f.required.find? (· ∉ seen) with
    | some key => throw (.mismatch (.missingField key))
    | none => return a
  | .array items ending => do
    let a ← f.place f.blank (f.keys.zip items)
    if f.keys.length < items.length then throw (.fault .malformed)
    faulty ending.read
    match f.required.find? (· ∈ f.keys.drop items.length) with
    | some key =>
      throw (.mismatch (.invalidLength (f.keys.idxOf key)
        (f.title ++ " with " ++ toString f.keys.length ++ " elements")))
    | none => return a
  | t => Decoder.refuse f.title t

end Format

/-- Reads a whole text: one value, and nothing but blanks after it. -/
def read {α : Type} (d : Decoder α) (text : String) : Except ReadError α := do
  let document := Document.ofText text
  let a ← d document.root
  if document.overrun then throw (.fault .malformed)
  return a

end TsqlAlter.Json
