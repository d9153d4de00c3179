import TsqlAlter.Diff.Attribute
import TsqlAlter.Schema.Column

/-!
# Changes of a column

A change holds the old and the new version of a column and the attributes it is said to concern.
`Change.between` tags exactly the attributes in which two versions differ.

Results:
* `has_between`: an attribute is tagged exactly when the versions differ in it.
* `differ_self`: without a floating-point default, a column differs from itself in nothing.
-/

namespace TsqlAlter

namespace Column

/-- Defaults that agree: both absent, or equal as values. -/
def defaultsAgree : Option DefaultValue → Option DefaultValue → Bool
  | none, none => true
  | some d, some e => d.agree e
  | _, _ => false

/-- The two columns differ in an attribute. -/
def differ (a b : Column) : Attribute → Bool
  | .type => a.type != b.type
  | .length => a.length != b.length
  | .precision => a.precision != b.precision
  | .scale => a.scale != b.scale
  | .fixed => a.fixed != b.fixed
  | .nullable => a.nullable != b.nullable
  | .default => !defaultsAgree a.default b.default
  | .unsigned => a.unsigned != b.unsigned
  | .autoincrement => a.autoincrement != b.autoincrement
  | .collation => a.collation != b.collation
  | .name => a.name != b.name

end Column

/-- A change of one column. -/
structure Change where
  /-- The name under which the column is found. -/
  oldName : String
  /-- The attributes the change concerns. -/
  attributes : AttributeSet
  before : Column
  after : Column
deriving DecidableEq

namespace Change

/-- The change from one version of a column to another. -/
def between (before after : Column) : Change where
  oldName := before.name
  attributes := ⟨before.differ after⟩
  before := before
  after := after

/-- The change concerns an attribute. -/
def concerns (c : Change) (a : Attribute) : Bool := c.attributes.has a

/-- The change concerns nothing. -/
def isEmpty (c : Change) : Bool := c.attributes.isEmpty

/-- The change redefines the column. -/
def altersDefinition (c : Change) : Bool := c.attributes.altersDefinition

@[simp] theorem has_between (before after : Column) (a : Attribute) :
    (between before after).attributes.has a = before.differ after a := rfl

end Change

/-- Without a floating-point default, a column differs from itself in nothing. -/
theorem Column.differ_self (c : Column) (h : ∀ d, c.default = some d → d.isFloat = false)
    (a : Attribute) : c.differ c a = false := by
  cases a <;> simp [Column.differ]
  match hd : c.default with
  | none => rfl
  | some d => exact (DefaultValue.agree_iff_eq (h d hd)).2 rfl

end TsqlAlter
