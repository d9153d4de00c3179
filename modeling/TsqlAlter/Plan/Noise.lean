import TsqlAlter.Plan.Dialect

/-!
# Changes without effect

Some changes of a column mean nothing to the server. Whether a number is unsigned cannot be
expressed at all, and a new type or length is nothing new when both versions of the column have the
same SQL type. Such attributes are taken out of a change, and a change that concerns nothing any
more is dropped. Only the type is compared, so the new one is tried on the old column.

Results:
* `reduce_eq_error_iff`: a change fails to be reduced exactly when a type to be compared fails.
* `reduceAll_append`: changes are reduced one after the other.
-/

namespace TsqlAlter

namespace Change

/-- The change concerns the type or the length. -/
def concernsType (c : Change) : Bool := c.concerns .type || c.concerns .length

/-- The change without an attribute. -/
def without (c : Change) (a : Attribute) : Change := { c with attributes := c.attributes.erase a }

end Change

namespace Dialect

/-- The SQL types to be compared: the old one, and the new one on the old column. -/
def comparedTypes (d : Dialect) (c : Change) : Except Error (String × String) := do
  let before ← d.typeText c.before
  let after ← d.typeText (c.before.withTypeOf c.after)
  return (before, after)

/-- The change without the attributes that mean nothing to the server. -/
def reduce (d : Dialect) (c : Change) : Except Error Change :=
  let signed := c.without .unsigned
  if c.concernsType then
    (d.comparedTypes c).map fun (before, after) =>
      if before = after then (signed.without .type).without .length else signed
  else .ok signed

/-- What is left of a change; none if nothing is. -/
def reduce? (d : Dialect) (c : Change) : Except Error (Option Change) :=
  (d.reduce c).map fun c => if c.isEmpty then none else some c

/-- What is left of changes, and the error of the first one that fails. -/
def reduceAll (d : Dialect) : List Change → List Change × Option Error
  | [] => ([], none)
  | c :: more =>
    match d.reduce? c with
    | .error e => ([], some e)
    | .ok kept => (kept.toList ++ (d.reduceAll more).1, (d.reduceAll more).2)

/-- The diff with what is left of its changes; after an error, of the changes before it. -/
def reduceDiff (d : Dialect) (diff : TableDiff) : TableDiff × Option Error :=
  let (changed, error) := d.reduceAll diff.changed
  ({ diff with changed := changed }, error)

/-- A change fails to be reduced exactly when it concerns the type and a type fails. -/
theorem reduce_eq_error_iff (d : Dialect) (c : Change) (e : Error) :
    d.reduce c = .error e ↔ c.concernsType = true ∧ d.comparedTypes c = .error e := by
  unfold reduce
  dsimp only
  split
  · next h =>
    cases d.comparedTypes c <;> simp [Except.map, h]
  · next h => simp [h]

/-- Changes are reduced one after the other. -/
theorem reduceAll_append {d : Dialect} {cs : List Change} (more : List Change)
    (h : (d.reduceAll cs).2 = none) :
    d.reduceAll (cs ++ more) =
      ((d.reduceAll cs).1 ++ (d.reduceAll more).1, (d.reduceAll more).2) := by
  induction cs with
  | nil => rfl
  | cons c cs ih =>
    rw [reduceAll] at h
    rw [List.cons_append, reduceAll, reduceAll]
    match hr : d.reduce? c with
    | .error e => simp [hr] at h
    | .ok kept =>
      simp only [hr] at h
      simp [ih h]

end Dialect

end TsqlAlter
