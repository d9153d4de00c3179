import TsqlAlter.Json.Decode
import TsqlAlter.Json.Value

/-!
# Lock hints

A query asks for a lock mode, and a hint table says which text follows the table reference of its
FROM clause. A mode without hint leaves the clause alone. The later of two hints for a mode counts.

Results:
* `get_set`: setting a hint changes the hint of its mode only.
* `get_unset`: so does taking it out.

Left out: what the server makes of a hint. A hint is a text, and nothing is asked of it.
-/

namespace TsqlAlter

/-- What a query asks of the rows it reads. -/
inductive LockMode where
  /-- No lock; uncommitted rows may be read. -/
  | none
  /-- A shared lock until the end of the transaction. -/
  | pessimisticRead
  /-- An update lock until the end of the transaction. -/
  | pessimisticWrite
  /-- Conflicts are left to the application. -/
  | optimistic
deriving DecidableEq, Repr

namespace LockMode

/-- The modes in declared order. -/
def all : List LockMode := [none, pessimisticRead, pessimisticWrite, optimistic]

/-- The name of a mode. -/
def name : LockMode → String
  | none => "none"
  | pessimisticRead => "pessimistic_read"
  | pessimisticWrite => "pessimistic_write"
  | optimistic => "optimistic"

/-- The modes by name. -/
def byName : List (String × LockMode) := all.map fun m => (m.name, m)

/-- Reads a mode from its name. -/
def decode : Json.Decoder LockMode := .enumeration byName

end LockMode

/-- The hints of the lock modes. -/
structure HintTable where
  none : Option String := .none
  pessimisticRead : Option String := .none
  pessimisticWrite : Option String := .none
  optimistic : Option String := .none
deriving DecidableEq, Repr

namespace HintTable

/-- No hint at all. -/
def empty : HintTable := {}

/-- The hints the server is used with. -/
def standard : HintTable where
  none := some " WITH (NOLOCK)"
  pessimisticRead := some " WITH (HOLDLOCK, ROWLOCK)"
  pessimisticWrite := some " WITH (UPDLOCK, ROWLOCK)"

/-- The hint of a mode. -/
def get (t : HintTable) : LockMode → Option String
  | .none => t.none
  | .pessimisticRead => t.pessimisticRead
  | .pessimisticWrite => t.pessimisticWrite
  | .optimistic => t.optimistic

/-- The table with another hint, or none, for a mode. -/
def put (t : HintTable) (mode : LockMode) (hint : Option String) : HintTable :=
  match mode with
  | .none => { t with none := hint }
  | .pessimisticRead => { t with pessimisticRead := hint }
  | .pessimisticWrite => { t with pessimisticWrite := hint }
  | .optimistic => { t with optimistic := hint }

/-- The table with a hint for a mode. -/
def set (t : HintTable) (mode : LockMode) (hint : String) : HintTable := t.put mode (some hint)

/-- The table without a hint for a mode. -/
def unset (t : HintTable) (mode : LockMode) : HintTable := t.put mode .none

/-- Takes the hint of a mode out of the table, if it has one. -/
def take (t : HintTable) (mode : LockMode) : Option String × HintTable :=
  (t.get mode, t.unset mode)

/-- The table with further hints, set one after the other. -/
def setAll (t : HintTable) (hints : List (LockMode × String)) : HintTable :=
  hints.foldl (fun t hint => t.set hint.1 hint.2) t

/-- The table of a list of hints. -/
def ofList (hints : List (LockMode × String)) : HintTable := empty.setAll hints

/-- The modes with a hint, in declared order. -/
def entries (t : HintTable) : List (LockMode × String) :=
  LockMode.all.filterMap fun mode => (t.get mode).map fun hint => (mode, hint)

/-- The number of modes with a hint. -/
def size (t : HintTable) : Nat := t.entries.length

/-- No mode has a hint. -/
def isEmpty (t : HintTable) : Bool := t.entries.isEmpty

/-- The FROM clause with the hint of a mode. -/
def append (t : HintTable) (clause : String) (mode : LockMode) : String :=
  match t.get mode with
  | some hint => clause ++ hint
  | .none => clause

/-- Reads a hint table. -/
def decode : Json.Decoder HintTable :=
  .map ofList (.entries (Json.Decoder.named LockMode.byName) .string)

/-- The JSON form of a hint table. -/
def toJson (t : HintTable) : Json.Value :=
  .object (t.entries.map fun (mode, hint) => (mode.name, .string hint))

/-- The hint table that a text describes. -/
def ofText (text : String) : Except Json.ReadError HintTable := Json.read decode text

@[ext] theorem ext_get {s t : HintTable} (h : ∀ mode, s.get mode = t.get mode) : s = t := by
  have h0 := h .none
  have h1 := h .pessimisticRead
  have h2 := h .pessimisticWrite
  have h3 := h .optimistic
  cases s; cases t
  simp_all [get]

theorem get_put (t : HintTable) (mode other : LockMode) (hint : Option String) :
    (t.put mode hint).get other = if other = mode then hint else t.get other := by
  cases mode <;> cases other <;> rfl

/-- Setting a hint changes the hint of its mode only. -/
theorem get_set (t : HintTable) (mode other : LockMode) (hint : String) :
    (t.set mode hint).get other = if other = mode then some hint else t.get other :=
  t.get_put mode other (some hint)

/-- Taking a hint out changes the hint of its mode only. -/
theorem get_unset (t : HintTable) (mode other : LockMode) :
    (t.unset mode).get other = if other = mode then .none else t.get other :=
  t.get_put mode other .none

end HintTable

end TsqlAlter
