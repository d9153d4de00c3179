import TsqlAlter.Diff.Change
import TsqlAlter.Proofs.Defaults

/-!
# What two versions of a column differ in

One version of a column is turned into another by taking over attributes. The attributes in which
the two differ are just what it takes: they suffice, and none of them can be left out.

A column differs from another as the other does from it, and a difference between the ends of two
steps shows in one of the steps. So it is whatever the defaults are. But a column whose default is a
NaN differs from itself, so that equal versions have no differences only if defaults are exact.

`copy` takes over one attribute of another column and `copyAll` those of a set.

Results:
* `eq_iff_differ`: columns that differ in nothing are equal.
* `differ_comm`, `differ_or_differ`: differences of two columns, and of three.
* `differ_copyAll_iff`: what is still different after attributes have been taken over.
* `copyAll_eq_iff`: which attributes suffice.
* `between_minimal`: the attributes of a change between two versions are the fewest that suffice.

Left out: changes tagged by hand, which may concern attributes that do not differ, or may leave out
some that do.
-/

namespace TsqlAlter

theorem DefaultValue.agree_comm (v w : DefaultValue) : v.agree w = w.agree v := by
  cases v
  case float x =>
    cases w
    case float y => exact Binary64.agree_comm x y
    all_goals rfl
  all_goals
    cases w
    case float => rfl
    all_goals exact BEq.comm

namespace Column

variable {a b c : Column} {x y : Attribute}

/-! ## Differences -/

theorem defaultsAgree_comm (d e : Option DefaultValue) :
    defaultsAgree d e = defaultsAgree e d := by
  cases d with
  | none => cases e <;> rfl
  | some v =>
    cases e with
    | none => rfl
    | some w => exact DefaultValue.agree_comm v w

theorem defaultsAgree_trans {d e f : Option DefaultValue} (h : defaultsAgree d e = true)
    (h' : defaultsAgree e f = true) : defaultsAgree d f = true := by
  match d, e, f with
  | none, none, none => rfl
  | some v, some w, some u => exact DefaultValue.agree_trans h h'
  | none, none, some _ => cases h'
  | none, some _, _ => cases h
  | some _, none, _ => cases h
  | some _, some _, none => cases h'

/-- The default of the second column being exact, defaults that agree are equal. -/
theorem default_eq_of_agree (exact : b.HasExactDefault)
    (h : defaultsAgree a.default b.default = true) : a.default = b.default := by
  match ha : a.default, hb : b.default with
  | none, none => rfl
  | none, some _ => rw [ha, hb] at h; cases h
  | some _, none => rw [ha, hb] at h; cases h
  | some v, some w =>
    rw [ha, hb] at h
    have nonzero : ∀ z, w = .float z → z.isZero = false := by
      rintro z rfl
      exact absurd (exact _ hb) (by simp [DefaultValue.isFloat])
    rw [DefaultValue.eq_of_agree nonzero h]

/-- **Columns that differ in nothing are equal.** -/
theorem eq_iff_differ (exact : b.HasExactDefault) : a = b ↔ ∀ x, a.differ b x = false := by
  constructor
  · rintro rfl
    exact differ_self a exact
  · intro h
    have same : defaultsAgree a.default b.default = true := by simpa [differ] using h .default
    have default := default_eq_of_agree exact same
    have type := h .type
    have length := h .length
    have precision := h .precision
    have scale := h .scale
    have fixed := h .fixed
    have nullable := h .nullable
    have unsigned := h .unsigned
    have autoincrement := h .autoincrement
    have collation := h .collation
    have name := h .name
    simp only [differ, bne_eq_false_iff_eq] at *
    cases a
    cases b
    simp_all

/-- **A column differs from another as the other does from it.** -/
theorem differ_comm (a b : Column) (x : Attribute) : a.differ b x = b.differ a x := by
  cases x
  case default => exact congrArg not (defaultsAgree_comm a.default b.default)
  all_goals exact bne_comm

theorem differ_trans (h : a.differ b x = false) (h' : b.differ c x = false) :
    a.differ c x = false := by
  cases x
  case default =>
    have first : defaultsAgree a.default b.default = true := by simpa [differ] using h
    have second : defaultsAgree b.default c.default = true := by simpa [differ] using h'
    exact congrArg not (defaultsAgree_trans first second)
  all_goals
    simp only [differ, bne_eq_false_iff_eq] at h h' ⊢
    exact h.trans h'

/-- **A difference shows in one of two steps.** -/
theorem differ_or_differ (h : a.differ c x = true) (b : Column) :
    a.differ b x = true ∨ b.differ c x = true := by
  by_cases first : a.differ b x = true
  · exact .inl first
  · refine .inr (Decidable.byContradiction fun second => ?_)
    rw [Bool.not_eq_true] at first second
    rw [differ_trans first second] at h
    cases h

/-! ## Taking over attributes -/

/-- The column with an attribute of another. -/
def copy (c other : Column) : Attribute → Column
  | .type => { c with type := other.type }
  | .length => { c with length := other.length }
  | .precision => { c with precision := other.precision }
  | .scale => { c with scale := other.scale }
  | .fixed => { c with fixed := other.fixed }
  | .nullable => { c with nullable := other.nullable }
  | .default => { c with default := other.default }
  | .unsigned => { c with unsigned := other.unsigned }
  | .autoincrement => { c with autoincrement := other.autoincrement }
  | .collation => { c with collation := other.collation }
  | .name => { c with name := other.name }

/-- The column with the attributes of another that a set names. -/
def copyAll (c other : Column) (s : AttributeSet) : Column := s.toList.foldl (·.copy other) c

theorem differ_copy_self (exact : b.HasExactDefault) (c : Column) (x : Attribute) :
    (c.copy b x).differ b x = false := by
  have same := differ_self b exact x
  cases x <;> exact same

/-- The other attributes stay. -/
theorem differ_copy_of_ne (c b : Column) (h : y ≠ x) : (c.copy b x).differ b y = c.differ b y := by
  cases x <;> cases y <;> first | rfl | exact absurd rfl h

theorem differ_foldl_copy_iff (exact : b.HasExactDefault) (xs : List Attribute) (c : Column) :
    (xs.foldl (·.copy b) c).differ b y = true ↔ y ∉ xs ∧ c.differ b y = true := by
  induction xs generalizing c with
  | nil => simp
  | cons x xs ih =>
    rw [List.foldl_cons, ih, List.mem_cons, not_or]
    by_cases h : y = x
    · subst h
      simp [differ_copy_self exact]
    · rw [differ_copy_of_ne c b h]
      simp [h]

/-- **What is still different** is what was different and has not been taken over. -/
theorem differ_copyAll_iff (exact : b.HasExactDefault) (s : AttributeSet) :
    (c.copyAll b s).differ b y = true ↔ s.has y = false ∧ c.differ b y = true := by
  rw [copyAll, differ_foldl_copy_iff exact, AttributeSet.mem_toList, Bool.not_eq_true]

/-- **Attributes suffice if all differences are among them.** -/
theorem copyAll_eq_iff (exact : b.HasExactDefault) (s : AttributeSet) :
    a.copyAll b s = b ↔ ∀ x, a.differ b x = true → s.has x = true := by
  rw [eq_iff_differ exact]
  refine forall_congr' fun x => ?_
  rw [← Bool.not_eq_true, differ_copyAll_iff exact]
  cases s.has x <;> simp

end Column

namespace Change

/-- **A change between two versions misses nothing and has nothing to spare.** Taking over its
attributes turns the first version into the second, and any attributes that do so are no fewer. So
there are none exactly if the versions are equal; they are the same the other way round, and those
of a change in two steps are among the attributes of the steps. -/
theorem between_minimal (a b c : Column) (exact : b.HasExactDefault) :
    a.copyAll b (between a b).attributes = b ∧
    (∀ s, a.copyAll b s = b → ∀ x, (between a b).concerns x = true → s.has x = true) ∧
    ((between a b).isEmpty = true ↔ a = b) ∧
    (between b a).attributes = (between a b).attributes ∧
    ∀ x, (between a c).concerns x = true →
      (between a b).concerns x = true ∨ (between b c).concerns x = true := by
  refine ⟨?_, fun s => (Column.copyAll_eq_iff exact s).1, ?_, ?_, fun x h => ?_⟩
  · exact (Column.copyAll_eq_iff exact _).2 fun x h => h
  · rw [isEmpty, AttributeSet.isEmpty_iff, Column.eq_iff_differ exact]
    rfl
  · exact AttributeSet.ext fun x => Column.differ_comm b a x
  · exact Column.differ_or_differ h b

/-- A column without a default. -/
def cost : Column where
  name := "cost"
  type := .decimal
  precision := some 10
  scale := some 2

/-- The column under another name, with an explicit null for its default and no scale. -/
def price : Column where
  name := "price"
  type := .decimal
  precision := some 10
  default := some .null

theorem between_minimal_price :
    price.HasExactDefault ∧
    (between cost price).attributes.toList = [.scale, .default, .name] ∧
    cost.copyAll price (between cost price).attributes = price ∧
    cost.copyAll price (.ofList [.scale, .name]) ≠ price := by
  have exact : price.HasExactDefault := by decide
  obtain ⟨enough, fewest, -⟩ := between_minimal cost price cost exact
  refine ⟨exact, by decide, enough, fun same => ?_⟩
  exact absurd (fewest _ same .default (by decide)) (by decide)

end Change

end TsqlAlter
