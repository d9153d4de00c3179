import TsqlAlter.Plan.Stepwise
import TsqlAlter.Proofs.Results

/-!
# Failing compilations

Compiling a diff is a sequence of steps that may fail, and the first failure is the answer. Here are
the laws by which such sequences are taken apart.

Results:
* `forEach_cons_eq_ok_iff`, `forEach_eq_ok_iff`: a list is compiled exactly when its head and its
  tail are, and when each of its entries is.
* `failure?_forEach`: the failure of a list is that of the first entry that fails.

Left out: failures after the first one. A compilation has one error.
-/

namespace TsqlAlter

variable {α β : Type}

/-- The error of a result that failed. -/
def failure? : Except Error α → Option Error
  | .ok _ => none
  | .error e => some e

@[simp] theorem failure?_ok (a : α) : failure? (.ok a) = none := rfl

@[simp] theorem failure?_error (e : Error) : failure? (.error e : Except Error α) = some e := rfl

@[simp] theorem failure?_map (x : Except Error α) (f : α → β) :
    failure? (x.map f) = failure? x := by
  cases x <;> rfl

theorem failure?_bind (x : Except Error α) (f : α → Except Error β) :
    failure? (x >>= f) = match x with
      | .ok a => failure? (f a)
      | .error e => some e := by
  cases x <;> rfl

theorem failure?_eq_none_iff {x : Except Error α} : failure? x = none ↔ ∃ a, x = .ok a := by
  cases x <;> simp

theorem failure?_eq_some_iff {x : Except Error α} {e : Error} :
    failure? x = some e ↔ x = .error e := by
  cases x <;> simp

namespace Dialect

/-! ## Entries compiled one after the other -/

theorem forEach_cons (f : α → Except Error (List Statement)) (a : α) (more : List α) :
    forEach f (a :: more) =
      (f a >>= fun first => (forEach f more).map (first ++ ·)) := by
  rw [forEach]
  cases f a with
  | error e => rfl
  | ok first => cases forEach f more <;> rfl

theorem forEach_cons_eq_ok_iff {f : α → Except Error (List Statement)} {a : α} {more : List α}
    {ss : List Statement} :
    forEach f (a :: more) = .ok ss ↔
      ∃ first rest, f a = .ok first ∧ forEach f more = .ok rest ∧ ss = first ++ rest := by
  rw [forEach_cons, bind_eq_ok_iff]
  constructor
  · rintro ⟨first, hf, h⟩
    obtain ⟨rest, hr, rfl⟩ := map_eq_ok_iff.1 h
    exact ⟨first, rest, hf, hr, rfl⟩
  · rintro ⟨first, rest, hf, hr, rfl⟩
    exact ⟨first, hf, map_eq_ok_iff.2 ⟨rest, hr, rfl⟩⟩

/-- A list is compiled exactly when each of its entries is. -/
theorem forEach_eq_ok_iff {f : α → Except Error (List Statement)} {as : List α}
    {ss : List Statement} :
    forEach f as = .ok ss ↔
      ∃ parts, List.Forall₂ (fun a part => f a = .ok part) as parts ∧ ss = parts.flatten := by
  induction as generalizing ss with
  | nil =>
    constructor
    · intro h
      cases h
      exact ⟨[], .nil, rfl⟩
    · rintro ⟨parts, emits, rfl⟩
      cases emits
      rfl
  | cons a more ih =>
    rw [forEach_cons_eq_ok_iff]
    constructor
    · rintro ⟨first, rest, hf, hr, rfl⟩
      obtain ⟨parts, emits, rfl⟩ := ih.1 hr
      exact ⟨first :: parts, .cons hf emits, rfl⟩
    · rintro ⟨parts, emits, rfl⟩
      cases emits with
      | cons hf emits => exact ⟨_, _, hf, ih.2 ⟨_, emits, rfl⟩, rfl⟩

/-- Entries may be replaced by others that have the same statements. -/
theorem forEach_map_eq {f : α → Except Error (List Statement)} {g : α → α}
    (same : ∀ a, f (g a) = f a) (as : List α) : forEach f (as.map g) = forEach f as := by
  induction as with
  | nil => rfl
  | cons a more ih => rw [List.map_cons, forEach_cons, forEach_cons, same, ih]

/-- The failure of a list is that of the first entry that fails. -/
theorem failure?_forEach (f : α → Except Error (List Statement)) (xs : List α) :
    failure? (forEach f xs) = xs.findSome? fun a => failure? (f a) := by
  induction xs with
  | nil => rfl
  | cons a more ih =>
    rw [forEach_cons, failure?_bind, List.findSome?_cons]
    cases f a with
    | error e => rfl
    | ok first =>
      show failure? ((forEach f more).map (first ++ ·)) = _
      rw [failure?_map, ih]
      rfl

end Dialect

end TsqlAlter
