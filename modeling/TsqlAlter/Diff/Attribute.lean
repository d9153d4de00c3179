/-!
# Attributes of a column

The attributes in which two versions of a column can differ, and sets of them. A set is its
membership function; `toList` lists the members in declared order.

Results:
* `mem_all`: the list of all attributes is complete.
* `mem_toList`: the listed members are the members.
* `has_ofList`: a set made from a list has the members of the list.
* `has_erase`: what is left after taking an attribute out.
* `isEmpty_iff`, `altersDefinition_iff`: the two questions asked of a set, by its members.
-/

namespace TsqlAlter

/-- An attribute of a column. -/
inductive Attribute where
  | type
  | length
  | precision
  | scale
  | fixed
  | nullable
  | default
  | unsigned
  | autoincrement
  | collation
  | name
deriving DecidableEq, Repr

namespace Attribute

/-- All attributes in declared order. -/
def all : List Attribute :=
  [type, length, precision, scale, fixed, nullable, default, unsigned, autoincrement, collation,
    name]

theorem mem_all (a : Attribute) : a ∈ all := by cases a <;> decide

/-- The name of an attribute. -/
def text : Attribute → String
  | type => "type"
  | length => "length"
  | precision => "precision"
  | scale => "scale"
  | fixed => "fixed"
  | nullable => "nullable"
  | default => "default"
  | unsigned => "unsigned"
  | autoincrement => "autoincrement"
  | collation => "collation"
  | name => "name"

/-- A change of the attribute redefines the column; the others are kept outside its definition. -/
def altersDefinition : Attribute → Bool
  | default => false
  | name => false
  | unsigned => false
  | _ => true

end Attribute

/-- A set of attributes. -/
structure AttributeSet where
  has : Attribute → Bool

namespace AttributeSet

@[ext] theorem ext {s t : AttributeSet} (h : ∀ a, s.has a = t.has a) : s = t := by
  cases s; cases t; congr; exact funext h

instance : DecidableEq AttributeSet := fun s t =>
  if h : Attribute.all.all (fun a => s.has a == t.has a) then
    isTrue (ext fun a => by simpa using List.all_eq_true.1 h a a.mem_all)
  else
    isFalse fun e => h (by subst e; simp)

/-- No attribute. -/
def empty : AttributeSet := ⟨fun _ => false⟩

/-- The attributes of a list. -/
def ofList (attributes : List Attribute) : AttributeSet := ⟨fun a => attributes.contains a⟩

/-- The members in declared order. -/
def toList (s : AttributeSet) : List Attribute := Attribute.all.filter s.has

/-- No member. -/
def isEmpty (s : AttributeSet) : Bool := s.toList.isEmpty

/-- The set without an attribute. -/
def erase (s : AttributeSet) (a : Attribute) : AttributeSet := ⟨fun b => b != a && s.has b⟩

/-- A member changes the definition of the column. -/
def altersDefinition (s : AttributeSet) : Bool := s.toList.any Attribute.altersDefinition

@[simp] theorem mem_toList {s : AttributeSet} {a : Attribute} :
    a ∈ s.toList ↔ s.has a = true := by
  simp [toList, Attribute.mem_all]

theorem has_ofList (attributes : List Attribute) (a : Attribute) :
    (ofList attributes).has a = true ↔ a ∈ attributes := by
  simp [ofList]

theorem has_erase (s : AttributeSet) (a b : Attribute) :
    (s.erase a).has b = true ↔ b ≠ a ∧ s.has b = true := by
  simp [erase]

theorem isEmpty_iff (s : AttributeSet) : s.isEmpty = true ↔ ∀ a, s.has a = false := by
  rw [isEmpty, List.isEmpty_iff, List.eq_nil_iff_forall_not_mem]
  simp

theorem altersDefinition_iff (s : AttributeSet) :
    s.altersDefinition = true ↔ ∃ a, s.has a = true ∧ a.altersDefinition = true := by
  simp [altersDefinition]

end AttributeSet

end TsqlAlter
