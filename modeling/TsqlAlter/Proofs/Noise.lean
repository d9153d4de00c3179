import TsqlAlter.Plan.Noise
import TsqlAlter.Proofs.Failure
import TsqlAlter.Proofs.TypeText

/-!
# Reducing changes

What the reduction of a change keeps, and how the reductions for two releases go together. The
reduction asks a dialect for nothing but the texts of two types, and whether it fails does not
depend on the release. On an older release more types fall together, so of two reductions the one
for the older release decides.

`kept` is what is left of changes, or the error of the first one that fails, and `untyped` a change
without what the type decides. `older` is the older of two releases.

Results:
* `reduce_cases`: the three ways a change can be reduced.
* `concerns_reduce_of_ne`: attributes other than the type, the length and the sign are kept.
* `reduce_bind_reduce`: reducing for two releases is reducing for the older one.
* `kept_bind_kept`: so it is for all changes of a diff, errors included.
* `kept_eq_ok_iff`, `kept_eq_error_iff`: what is left of the changes of a diff.

Left out: precision, scale and the fixed flag. A reduction keeps them, whether they mean anything or
not.
-/

namespace TsqlAlter

namespace AttributeSet

/-- An attribute that is no member can be taken out without effect. -/
theorem erase_eq_self {s : AttributeSet} {a : Attribute} (h : s.has a = false) : s.erase a = s := by
  ext b
  by_cases hb : b = a
  · subst hb
    simp [erase, h]
  · simp [erase, hb]

end AttributeSet

namespace Change

@[simp] theorem concerns_without (c : Change) (a b : Attribute) :
    (c.without a).concerns b = (b != a && c.concerns b) := rfl

theorem without_eq_self {c : Change} {a : Attribute} (h : c.concerns a = false) :
    c.without a = c := by
  unfold without
  rw [AttributeSet.erase_eq_self h]

/-- The change without what the type of a column decides. -/
def untyped (c : Change) : Change := (c.without .type).without .length

@[simp] theorem concerns_untyped (c : Change) (a : Attribute) :
    c.untyped.concerns a = (a != .length && (a != .type && c.concerns a)) := rfl

@[simp] theorem concernsType_untyped (c : Change) : c.untyped.concernsType = false := by
  simp [concernsType]

end Change

namespace Dialect

variable {d : Dialect} {c k : Change}

/-! ## One change -/

/-- The types to be compared, one by one. -/
theorem comparedTypes_eq_ok_iff {before after : String} :
    d.comparedTypes c = .ok (before, after) ↔
      d.typeText c.before = .ok before ∧ d.typeText (c.before.withTypeOf c.after) = .ok after := by
  unfold comparedTypes
  cases d.typeText c.before with
  | error e => simp [bind, Except.bind]
  | ok t =>
    cases d.typeText (c.before.withTypeOf c.after) with
    | error e => simp [bind, Except.bind]
    | ok u => simp [bind, Except.bind, pure, Except.pure]

theorem comparedTypes_eq_error_iff {e : Error} :
    d.comparedTypes c = .error e ↔ d.typeText c.before = .error e ∨
      (∃ before, d.typeText c.before = .ok before) ∧
        d.typeText (c.before.withTypeOf c.after) = .error e := by
  unfold comparedTypes
  cases d.typeText c.before with
  | error e => simp [bind, Except.bind]
  | ok t =>
    cases d.typeText (c.before.withTypeOf c.after) with
    | error e => simp [bind, Except.bind]
    | ok u => simp [bind, Except.bind, pure, Except.pure]

/-- **The ways to reduce a change.** It does not concern the type; or it does, and the types are
told apart or not. The sign goes in any case. -/
theorem reduce_cases (h : d.reduce c = .ok k) :
    (c.concernsType = false ∧ k = c.without .unsigned) ∨
    (c.concernsType = true ∧ k = c.without .unsigned ∧ ∃ before after, before ≠ after ∧
      d.comparedTypes c = .ok (before, after)) ∨
    (c.concernsType = true ∧ k = (c.without .unsigned).untyped ∧ ∃ type,
      d.comparedTypes c = .ok (type, type)) := by
  unfold reduce at h
  dsimp only at h
  by_cases typed : c.concernsType = true
  · rw [if_pos typed] at h
    obtain ⟨⟨before, after⟩, compared, rfl⟩ := map_eq_ok_iff.1 h
    by_cases same : before = after
    · subst same
      refine .inr (.inr ⟨typed, ?_, before, compared⟩)
      simp only [if_pos]
      rfl
    · refine .inr (.inl ⟨typed, ?_, before, after, same, compared⟩)
      simp only [if_neg same]
  · rw [if_neg typed] at h
    cases h
    exact .inl ⟨by simpa using typed, rfl⟩

theorem reduce_of_not_concernsType (h : c.concernsType = false) :
    d.reduce c = .ok (c.without .unsigned) := by
  unfold reduce
  simp [h]

theorem reduce_of_comparedTypes {before after : String} (h : c.concernsType = true)
    (compared : d.comparedTypes c = .ok (before, after)) :
    d.reduce c = .ok (if before = after then (c.without .unsigned).untyped
      else c.without .unsigned) := by
  unfold reduce
  simp only [if_pos h, compared, Except.map]
  rfl

/-- The sign never counts. -/
theorem concerns_unsigned_reduce (h : d.reduce c = .ok k) : k.concerns .unsigned = false := by
  obtain ⟨-, rfl⟩ | ⟨-, rfl, -⟩ | ⟨-, rfl, -⟩ := reduce_cases h <;> simp

/-- The columns of a change stay. -/
theorem reduce_fields (h : d.reduce c = .ok k) :
    k.oldName = c.oldName ∧ k.before = c.before ∧ k.after = c.after := by
  obtain ⟨-, rfl⟩ | ⟨-, rfl, -⟩ | ⟨-, rfl, -⟩ := reduce_cases h <;> exact ⟨rfl, rfl, rfl⟩

/-- The other attributes of a change stay. -/
theorem concerns_reduce_of_ne (h : d.reduce c = .ok k) {a : Attribute} (hu : a ≠ .unsigned)
    (ht : a ≠ .type) (hl : a ≠ .length) : k.concerns a = c.concerns a := by
  have hu : (a != .unsigned) = true := bne_iff_ne.2 hu
  have ht : (a != .type) = true := bne_iff_ne.2 ht
  have hl : (a != .length) = true := bne_iff_ne.2 hl
  obtain ⟨-, rfl⟩ | ⟨-, rfl, -⟩ | ⟨-, rfl, -⟩ := reduce_cases h
  · rw [Change.concerns_without, hu, Bool.true_and]
  · rw [Change.concerns_without, hu, Bool.true_and]
  · rw [Change.concerns_untyped, Change.concerns_without, hl, ht, hu]
    simp only [Bool.true_and]

/-- Nothing is added to a change. -/
theorem concerns_of_reduce (h : d.reduce c = .ok k) {a : Attribute} (ha : k.concerns a = true) :
    c.concerns a = true := by
  obtain ⟨-, rfl⟩ | ⟨-, rfl, -⟩ | ⟨-, rfl, -⟩ := reduce_cases h <;> simp at ha <;> simp [ha]

/-- A change that concerns neither the sign nor the type is reduced already. -/
theorem reduce_eq_self (hu : c.concerns .unsigned = false) (ht : c.concernsType = false) :
    d.reduce c = .ok c := by
  rw [reduce_of_not_concernsType ht, Change.without_eq_self hu]

theorem reduce_without_unsigned (c : Change) : d.reduce (c.without .unsigned) = d.reduce c := by
  have signed : (c.without .unsigned).without .unsigned = c.without .unsigned :=
    Change.without_eq_self (by simp)
  unfold reduce
  rw [signed]
  rfl

/-- An empty change stays empty. -/
theorem isEmpty_of_reduce (h : d.reduce c = .ok k) (empty : c.isEmpty = true) :
    k.isEmpty = true := by
  rw [Change.isEmpty, AttributeSet.isEmpty_iff] at empty ⊢
  intro a
  rw [Bool.eq_false_iff]
  intro ha
  exact absurd (concerns_of_reduce h ha) (by simp [Change.concerns, empty a])

/-- What is left of a change, if anything. -/
theorem reduce?_eq_ok_some_iff : d.reduce? c = .ok (some k) ↔ d.reduce c = .ok k ∧
    k.isEmpty = false := by
  unfold reduce?
  rw [map_eq_ok_iff]
  constructor
  · rintro ⟨k', h, e⟩
    split at e
    · cases e
    · next full =>
      cases e
      exact ⟨h, by simpa using full⟩
  · rintro ⟨h, full⟩
    exact ⟨k, h, by simp [full]⟩

theorem reduce?_eq_ok_none_iff : d.reduce? c = .ok none ↔ ∃ k, d.reduce c = .ok k ∧
    k.isEmpty = true := by
  unfold reduce?
  rw [map_eq_ok_iff]
  constructor
  · rintro ⟨k, h, e⟩
    split at e
    · next empty => exact ⟨k, h, empty⟩
    · cases e
  · rintro ⟨k, h, empty⟩
    exact ⟨k, h, by simp [empty]⟩

/-! ## All changes of a diff -/

/-- What is left of changes, or the error of the first one that fails. -/
def kept (d : Dialect) (cs : List Change) : Except Error (List Change) :=
  (cs.mapM d.reduce?).map List.reduceOption

@[simp] theorem kept_nil (d : Dialect) : d.kept [] = .ok [] := rfl

theorem kept_cons (d : Dialect) (c : Change) (more : List Change) :
    d.kept (c :: more) =
      (d.reduce? c >>= fun k => (d.kept more).map (k.toList ++ ·)) := by
  unfold kept
  rw [List.mapM_cons]
  cases d.reduce? c with
  | error e => rfl
  | ok k =>
    cases more.mapM d.reduce? with
    | error e => rfl
    | ok ks => cases k <;> rfl

/-- Changes are reduced one after the other, the first error being the answer. -/
theorem kept_append (d : Dialect) (cs more : List Change) :
    d.kept (cs ++ more) = (d.kept cs >>= fun ks => (d.kept more).map (ks ++ ·)) := by
  induction cs with
  | nil =>
    rw [List.nil_append, kept_nil]
    cases d.kept more <;> rfl
  | cons c cs ih =>
    rw [List.cons_append, kept_cons, kept_cons, ih]
    cases d.reduce? c with
    | error e => rfl
    | ok k =>
      cases d.kept cs with
      | error e => rfl
      | ok ks =>
        cases d.kept more with
        | error e => rfl
        | ok ls => exact congrArg Except.ok (List.append_assoc _ _ _).symm

/-- What is left when no change fails. -/
theorem kept_eq_ok_iff {cs ks : List Change} :
    d.kept cs = .ok ks ↔ d.reduceAll cs = (ks, none) := by
  induction cs generalizing ks with
  | nil => simp [reduceAll, eq_comm]
  | cons c more ih =>
    rw [kept_cons, reduceAll]
    cases d.reduce? c with
    | error e => simp [bind, Except.bind]
    | ok k =>
      show (d.kept more).map _ = _ ↔ (_, _) = (_, _)
      rw [map_eq_ok_iff, Prod.mk.injEq]
      constructor
      · rintro ⟨ls, h, rfl⟩
        simp [ih.1 h]
      · rintro ⟨rfl, h⟩
        exact ⟨_, ih.2 (Prod.ext rfl h), rfl⟩

/-- The error when a change fails. -/
theorem kept_eq_error_iff {cs : List Change} {e : Error} :
    d.kept cs = .error e ↔ (d.reduceAll cs).2 = some e := by
  induction cs with
  | nil => simp [reduceAll]
  | cons c more ih =>
    rw [kept_cons, reduceAll]
    cases d.reduce? c with
    | error e => simp [bind, Except.bind]
    | ok k =>
      show (d.kept more).map _ = _ ↔ _
      rw [map_eq_error_iff, ih]

/-- The failure of the changes of a diff is that of the first one that fails. -/
theorem failure?_kept (d : Dialect) (cs : List Change) :
    failure? (d.kept cs) = cs.findSome? fun c => failure? (d.reduce? c) := by
  induction cs with
  | nil => rfl
  | cons c more ih =>
    rw [kept_cons, failure?_bind, List.findSome?_cons]
    cases d.reduce? c with
    | error e => rfl
    | ok k =>
      show failure? ((d.kept more).map (k.toList ++ ·)) = _
      rw [failure?_map, ih]
      rfl

/-- What is left of changes none of which fails. -/
theorem eq_filterMap_of_kept {cs ks : List Change} (h : d.kept cs = .ok ks) :
    ks = cs.filterMap fun c => (d.reduce? c).toOption.join := by
  induction cs generalizing ks with
  | nil => cases h; rfl
  | cons c more ih =>
    rw [kept_cons] at h
    obtain ⟨k, hc, h⟩ := bind_eq_ok_iff.1 h
    obtain ⟨ls, hl, rfl⟩ := map_eq_ok_iff.1 h
    rw [ih hl]
    cases k <;> simp [hc, Except.toOption]

end Dialect

/-! ## Two releases -/

namespace Release

/-- The older of two releases. -/
def older (r q : Release) : Release := if r.rank ≤ q.rank then r else q

theorem older_eq_left {r q : Release} (h : r.rank ≤ q.rank) : r.older q = r := if_pos h

theorem older_comm (r q : Release) : r.older q = q.older r := by
  cases r <;> cases q <;> rfl

variable {r q : Release} {c k : Change}

/-- Whether types can be compared does not depend on the release. -/
theorem comparedTypes_error_of_error {e : Error} (h : q.dialect.comparedTypes c = .error e) :
    r.dialect.comparedTypes c = .error e := by
  rw [Dialect.comparedTypes_eq_error_iff] at h ⊢
  rcases h with h | ⟨⟨before, hb⟩, h⟩
  · exact .inl ((typeText_eq_error_iff r _ e).2 ((typeText_eq_error_iff q _ e).1 h))
  · refine .inr ⟨exists_typeText_of_ok hb r, ?_⟩
    exact (typeText_eq_error_iff r _ e).2 ((typeText_eq_error_iff q _ e).1 h)

/-- Nor does whether a change can be reduced. -/
theorem reduce_error_of_error {e : Error} (h : q.dialect.reduce c = .error e) :
    r.dialect.reduce c = .error e := by
  rw [Dialect.reduce_eq_error_iff] at h ⊢
  exact ⟨h.1, comparedTypes_error_of_error h.2⟩

theorem exists_comparedTypes_of_ok {types : String × String}
    (h : q.dialect.comparedTypes c = .ok types) (r : Release) :
    ∃ before after, r.dialect.comparedTypes c = .ok (before, after) := by
  obtain ⟨hb, ha⟩ := Dialect.comparedTypes_eq_ok_iff.1 h
  obtain ⟨before, hb⟩ := exists_typeText_of_ok hb r
  obtain ⟨after, ha⟩ := exists_typeText_of_ok ha r
  exact ⟨before, after, Dialect.comparedTypes_eq_ok_iff.2 ⟨hb, ha⟩⟩

/-- Types that are not told apart on a release are not told apart on an older one. -/
theorem comparedTypes_of_newer (h : r.rank ≤ q.rank) {type : String}
    (same : q.dialect.comparedTypes c = .ok (type, type)) :
    ∃ t, r.dialect.comparedTypes c = .ok (t, t) := by
  obtain ⟨hb, ha⟩ := Dialect.comparedTypes_eq_ok_iff.1 same
  obtain ⟨t, ht⟩ := exists_typeText_of_ok hb r
  exact ⟨t, Dialect.comparedTypes_eq_ok_iff.2 ⟨ht, typeText_eq_of_newer h hb ha ▸ ht⟩⟩

/-- A change reduced for a release is reduced for every newer one. -/
theorem reduce_of_reduce_older (h : r.rank ≤ q.rank) (hk : r.dialect.reduce c = .ok k) :
    q.dialect.reduce k = .ok k := by
  have signed := Dialect.concerns_unsigned_reduce hk
  obtain ⟨typed, -⟩ | ⟨typed, rfl, before, after, differ, compared⟩ | ⟨typed, rfl, -⟩ :=
    Dialect.reduce_cases hk
  · refine Dialect.reduce_eq_self signed ?_
    rw [Bool.eq_false_iff]
    intro ht
    rw [Change.concernsType, Bool.or_eq_true] at ht
    rw [Bool.eq_false_iff, Change.concernsType, Ne, Bool.or_eq_true] at typed
    exact typed (ht.imp (Dialect.concerns_of_reduce hk) (Dialect.concerns_of_reduce hk))
  · -- types told apart on the older release are told apart on the newer one
    obtain ⟨b, a, hq⟩ := exists_comparedTypes_of_ok compared q
    have apart : b ≠ a := by
      rintro rfl
      obtain ⟨t, ht⟩ := comparedTypes_of_newer h hq
      rw [compared] at ht
      cases ht
      exact differ rfl
    rw [Dialect.reduce_without_unsigned, Dialect.reduce_of_comparedTypes typed hq, if_neg apart]
  · exact Dialect.reduce_eq_self signed (Change.concernsType_untyped _)

/-- Reducing for an older release finishes what a newer one has begun. -/
theorem reduce_older_of_reduce (h : r.rank ≤ q.rank) (hk : q.dialect.reduce c = .ok k) :
    r.dialect.reduce k = r.dialect.reduce c := by
  obtain ⟨-, rfl⟩ | ⟨-, rfl, -⟩ | ⟨typed, rfl, type, same⟩ := Dialect.reduce_cases hk
  · exact Dialect.reduce_without_unsigned c
  · exact Dialect.reduce_without_unsigned c
  · obtain ⟨t, ht⟩ := comparedTypes_of_newer h same
    rw [Dialect.reduce_of_comparedTypes typed ht, if_pos rfl]
    exact Dialect.reduce_eq_self (by simp) (Change.concernsType_untyped _)

/-- **Reducing for two releases is reducing for the older one.** -/
theorem reduce_bind_reduce (r q : Release) (c : Change) :
    (r.dialect.reduce c >>= q.dialect.reduce) = (r.older q).dialect.reduce c := by
  by_cases h : r.rank ≤ q.rank
  · rw [older_eq_left h]
    cases hr : r.dialect.reduce c with
    | error e => rfl
    | ok k => exact reduce_of_reduce_older h hr
  · rw [older, if_neg h]
    cases hr : r.dialect.reduce c with
    | error e => exact (reduce_error_of_error hr).symm
    | ok k => exact reduce_older_of_reduce (Nat.le_of_not_le h) hr

/-- What is left of what is left is what the older release leaves. -/
theorem reduce?_bind_reduce? (r q : Release) (c : Change) :
    (r.dialect.reduce? c >>= fun k => q.dialect.kept k.toList) =
      ((r.older q).dialect.reduce? c).map Option.toList := by
  have both := reduce_bind_reduce r q c
  unfold Dialect.reduce?
  cases hr : r.dialect.reduce c with
  | error e =>
    rw [hr] at both
    rw [← both]
    rfl
  | ok k =>
    have hq : q.dialect.reduce k = (r.older q).dialect.reduce c := by rw [← both, hr]; rfl
    show q.dialect.kept (if k.isEmpty then none else some k).toList = _
    cases empty : k.isEmpty
    · rw [if_neg Bool.false_ne_true, Option.toList_some, Dialect.kept_cons, Dialect.reduce?, hq]
      cases (r.older q).dialect.reduce c with
      | error e => rfl
      | ok k' =>
        show Except.map _ (Except.ok []) = _
        cases hk : k'.isEmpty <;> simp [Except.map, hk]
    · -- nothing left for the first release, so nothing for the second
      rw [← hq]
      cases hk : q.dialect.reduce k with
      | error e =>
        rw [Dialect.reduce_eq_error_iff, Change.concernsType] at hk
        rw [Change.isEmpty, AttributeSet.isEmpty_iff] at empty
        simp [Change.concerns, empty] at hk
      | ok k' => simp [Except.map, Dialect.isEmpty_of_reduce hk empty]

/-- Whether something is left of a change may depend on the release, whether it fails does not. -/
theorem exists_reduce?_of_ok {k : Option Change} (h : q.dialect.reduce? c = .ok k) (r : Release) :
    ∃ k', r.dialect.reduce? c = .ok k' := by
  obtain ⟨k, hk, -⟩ := map_eq_ok_iff.1 h
  cases hr : r.dialect.reduce c with
  | error e =>
    rw [reduce_error_of_error hr] at hk
    cases hk
  | ok k' => exact ⟨_, map_eq_ok_iff.2 ⟨k', hr, rfl⟩⟩

/-- Nor does whether the changes of a diff fail. -/
theorem exists_kept_of_ok {cs ks : List Change} (h : q.dialect.kept cs = .ok ks) (r : Release) :
    ∃ ls, r.dialect.kept cs = .ok ls := by
  induction cs generalizing ks with
  | nil => exact ⟨[], rfl⟩
  | cons c more ih =>
    rw [Dialect.kept_cons] at h
    obtain ⟨k, hc, h⟩ := bind_eq_ok_iff.1 h
    obtain ⟨rest, hr, -⟩ := map_eq_ok_iff.1 h
    obtain ⟨k', hk'⟩ := exists_reduce?_of_ok hc r
    obtain ⟨ls, hl⟩ := ih hr
    exact ⟨k'.toList ++ ls, by rw [Dialect.kept_cons, hk', hl]; rfl⟩

/-- **Reducing all changes for two releases is reducing them for the older one**, and the first
error is the same. -/
theorem kept_bind_kept (r q : Release) (cs : List Change) :
    (r.dialect.kept cs >>= q.dialect.kept) = (r.older q).dialect.kept cs := by
  induction cs with
  | nil => rfl
  | cons c more ih =>
    have head := reduce?_bind_reduce? r q c
    rw [Dialect.kept_cons, Dialect.kept_cons, ← ih]
    cases hr : r.dialect.reduce? c with
    | error e =>
      rw [hr] at head
      rw [map_eq_error_iff.1 head.symm]
      rfl
    | ok k =>
      obtain ⟨k', hk'⟩ := exists_reduce?_of_ok hr (r.older q)
      rw [hr, hk'] at head
      rw [hk']
      cases r.dialect.kept more with
      | error e => rfl
      | ok ks =>
        show q.dialect.kept (k.toList ++ ks) = (q.dialect.kept ks).map (k'.toList ++ ·)
        have first : q.dialect.kept k.toList = .ok k'.toList := head
        rw [Dialect.kept_append, first]
        rfl

end Release

end TsqlAlter
