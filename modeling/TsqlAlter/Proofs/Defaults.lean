import TsqlAlter.Diff.TableDiff
import TsqlAlter.Sql.Literal

/-!
# Defaults of one value

Two defaults are told apart by their values, not by how they are written: the two zeros are one
value. A default constraint may therefore hold the literal of another default than the column has
now, but only of one with the same value.

`HasLiteral` says of a text that it is the literal of some default of the same value, and
`HasExactDefault` of a column that its default is no floating-point value, so that it has one
literal only.

Results:
* `agree_trans`: defaults that agree with a third one agree.
* `hasLiteral_of_ofDefault`: a default has the literal that it is written as.
* `hasLiteral_iff`: the two zeros apart, this is the only literal it has.
* `literal_eq_of_hasLiteral`: a default that is no floating-point value has one literal.
* `constrainedDefault?_of_agree`: columns whose defaults agree need constraints of one value.
* `HasExactDefault.constrainedDefault?_eq`: no floating-point value being involved, the same one.

Left out: what the server makes of an expression. Two expressions agree if they are the same text.
-/

namespace TsqlAlter

theorem Binary64.agree_trans {x y z : Binary64} (hxy : x.agree y = true) (hyz : y.agree z = true) :
    x.agree z = true := by
  unfold agree at *
  simp only [Bool.and_eq_true, Bool.or_eq_true, Bool.not_eq_true', beq_iff_eq] at *
  obtain ⟨⟨hx, -⟩, same⟩ := hxy
  obtain ⟨⟨-, hz⟩, same'⟩ := hyz
  refine ⟨⟨hx, hz⟩, ?_⟩
  rcases same with rfl | ⟨zx, zy⟩
  · exact same'
  · rcases same' with rfl | ⟨-, zz⟩
    · exact .inr ⟨zx, zy⟩
    · exact .inr ⟨zx, zz⟩

namespace DefaultValue

variable {v w x : DefaultValue}

theorem agree_trans (h : v.agree w = true) (h' : w.agree x = true) : v.agree x = true := by
  cases v
  case float a =>
    cases w
    case float b =>
      cases x
      case float c => exact Binary64.agree_trans h h'
      all_goals cases h'
    all_goals cases h
  all_goals
    rw [(agree_iff_eq rfl).1 h]
    exact h'

/-- The two zeros apart, defaults that agree are one default. -/
theorem eq_of_agree (nonzero : ∀ x, w = float x → x.isZero = false) (h : v.agree w = true) :
    v = w := by
  cases v
  case float a =>
    cases w
    case float b =>
      have full : b.isZero = false := nonzero b rfl
      have same : a.agree b = true := h
      rw [Binary64.agree, full, Bool.and_false, Bool.or_false, Bool.and_eq_true, beq_iff_eq] at same
      rw [same.2]
    all_goals cases h
  all_goals exact (agree_iff_eq rfl).1 h

theorem isNull_of_agree (h : v.agree w = true) : v = null ↔ w = null := by
  cases v <;> cases w <;> simp_all [agree]

/-- The literal is that of a default of the same value. -/
def HasLiteral (v : DefaultValue) (literal : String) : Prop :=
  ∃ column d, d.agree v = true ∧ Sql.ofDefault column d = .ok literal

/-- A default agrees with itself if it has a literal: it is no NaN. -/
theorem hasLiteral_of_ofDefault {column literal : String}
    (h : Sql.ofDefault column v = .ok literal) : v.HasLiteral literal := by
  refine ⟨column, v, ?_, h⟩
  cases v
  case float x =>
    have finite := Sql.isOk_ofDefault column (float x)
    rw [h] at finite
    have finite : x.isFinite = true := finite.symm
    rw [agree, Binary64.agree_self_iff, Binary64.isNaN, Bool.and_eq_false_iff]
    left
    simpa [Binary64.isFinite] using finite
  all_goals exact (agree_iff_eq rfl).2 rfl

/-- The two zeros apart, it is the literal of the default itself. -/
theorem hasLiteral_iff (nonzero : ∀ x, v = float x → x.isZero = false) {literal : String} :
    v.HasLiteral literal ↔ ∃ column, Sql.ofDefault column v = .ok literal := by
  constructor
  · rintro ⟨column, d, hd, hl⟩
    rw [eq_of_agree nonzero hd] at hl
    exact ⟨column, hl⟩
  · rintro ⟨column, hl⟩
    exact hasLiteral_of_ofDefault hl

/-- The column of a default is named in errors only. -/
theorem ofDefault_eq_ok_of_eq_ok {column literal : String}
    (h : Sql.ofDefault column v = .ok literal) (other : String) :
    Sql.ofDefault other v = .ok literal := by
  cases v <;> simp only [Sql.ofDefault] at h ⊢
  case float x =>
    split at h
    · next finite => rw [if_pos finite, h]
    · cases h
  case expression sql =>
    split at h
    · cases h
    · next full => rw [if_neg full, h]
  all_goals exact h

/-- A default that is no floating-point value has one literal. -/
theorem literal_eq_of_hasLiteral (exact : v.isFloat = false) {literal literal' : String}
    (h : v.HasLiteral literal) (h' : v.HasLiteral literal') : literal = literal' := by
  have nonzero : ∀ x, v = float x → x.isZero = false := by
    rintro x rfl
    cases exact
  obtain ⟨column, hl⟩ := (hasLiteral_iff nonzero).1 h
  obtain ⟨column', hl'⟩ := (hasLiteral_iff nonzero).1 h'
  rw [ofDefault_eq_ok_of_eq_ok hl column'] at hl'
  exact Except.ok.inj hl'

theorem HasLiteral.of_agree {literal : String} (h : v.HasLiteral literal)
    (same : v.agree w = true) : w.HasLiteral literal := by
  obtain ⟨column, d, hd, hl⟩ := h
  exact ⟨column, d, agree_trans hd same, hl⟩

end DefaultValue

/-- The default of the column, if it has one, is no floating-point value. -/
def Column.HasExactDefault (c : Column) : Prop := ∀ v, c.default = some v → v.isFloat = false

instance (c : Column) : Decidable c.HasExactDefault :=
  decidable_of_iff (c.default.all (!·.isFloat) = true) <| by
    cases h : c.default <;> simp [Column.HasExactDefault, h]

/-- All columns that a diff holds, each version of a changed one. -/
def TableDiff.columns (d : TableDiff) : List Column :=
  d.added ++ d.removed ++ d.changed.flatMap (fun k => [k.before, k.after]) ++
    d.renamed.map Rename.column

namespace TableDiff

variable {d : TableDiff}

theorem mem_columns_of_added {x : Column} (hx : x ∈ d.added) : x ∈ d.columns :=
  List.mem_append_left _ (List.mem_append_left _ (List.mem_append_left _ hx))

theorem mem_columns_of_changed {k : Change} (hk : k ∈ d.changed) :
    k.before ∈ d.columns ∧ k.after ∈ d.columns := by
  have both : ∀ x ∈ [k.before, k.after], x ∈ d.columns := fun x hx =>
    List.mem_append_left _ (List.mem_append_right _ (List.mem_flatMap.2 ⟨k, hk, hx⟩))
  exact ⟨both _ (by simp), both _ (by simp)⟩

end TableDiff

/-- Columns whose defaults agree need constraints of one value, or none. -/
theorem Column.constrainedDefault?_of_agree {a b : Column}
    (h : Column.defaultsAgree a.default b.default = true) :
    (a.constrainedDefault? = none ∧ b.constrainedDefault? = none) ∨
      ∃ v w, a.constrainedDefault? = some v ∧ b.constrainedDefault? = some w ∧
        v.agree w = true := by
  match ha : a.default, hb : b.default with
  | none, none =>
    exact .inl ⟨a.constrainedDefault?_eq_none_iff.2 (.inl ha),
      b.constrainedDefault?_eq_none_iff.2 (.inl hb)⟩
  | none, some w => rw [ha, hb] at h; cases h
  | some v, none => rw [ha, hb] at h; cases h
  | some v, some w =>
    rw [ha, hb] at h
    have null := DefaultValue.isNull_of_agree h
    by_cases hv : v = .null
    · exact .inl ⟨a.constrainedDefault?_eq_none_iff.2 (.inr (hv ▸ ha)),
        b.constrainedDefault?_eq_none_iff.2 (.inr (null.1 hv ▸ hb))⟩
    · have hw : w ≠ .null := fun hw => hv (null.2 hw)
      refine .inr ⟨v, w, ?_, ?_, h⟩
      · unfold constrainedDefault?
        rw [ha]
        split <;> simp_all
      · unfold constrainedDefault?
        rw [hb]
        split <;> simp_all

theorem Column.default_of_constrainedDefault? {c : Column} {v : DefaultValue}
    (h : c.constrainedDefault? = some v) : c.default = some v := by
  unfold constrainedDefault? at h
  split at h
  · cases h
  · exact h

/-- Exact defaults that agree need the same constraint. -/
theorem Column.HasExactDefault.constrainedDefault?_eq {a b : Column} (exact : a.HasExactDefault)
    (h : Column.defaultsAgree a.default b.default = true) :
    a.constrainedDefault? = b.constrainedDefault? := by
  obtain ⟨none, none'⟩ | ⟨v, w, hv, hw, same⟩ := Column.constrainedDefault?_of_agree h
  · rw [none, none']
  · have exact : v.isFloat = false := exact v (default_of_constrainedDefault? hv)
    rw [hv, hw, (DefaultValue.agree_iff_eq exact).1 same]

end TsqlAlter
