import TsqlAlter.Proofs.Noise

/-!
# Diffs with reduced changes

What a diff holds after its changes were reduced in place, whatever dialect renders the types: the
reduced changes in their order, the empty ones left out, and nothing else touched. If the types of a
change cannot be compared, the diff holds what is left of the changes before it.

What it means to reduce a change is said here by the attributes it keeps (`Reduces`), not by how
they are taken out. A reduced change keeps all of them when it is reduced once more, which makes
the reduced diff a fixed point.

`TellsApart` says that the two types of a change have different texts, and `Counts` that an
attribute means something to the server.

Results:
* `reduce_eq_ok_iff`: a change is reduced by taking out the attributes that do not count.
* `Reduces.self`: a reduced change is reduced to itself.
* `reduceDiff_cases`: the diff after its changes were reduced, and after a failure amid them.

Left out: why two types cannot be compared. Any dialect may fail in any way.
-/

namespace TsqlAlter

theorem Change.concernsType_iff {c : Change} :
    c.concernsType = true ↔ c.concerns .type = true ∨ c.concerns .length = true := by
  simp [concernsType]

namespace Dialect

/-- The new type on the old column has a text other than that of the old type. -/
def TellsApart (d : Dialect) (c : Change) : Prop :=
  ∃ before after, d.typeText c.before = .ok before ∧
    d.typeText (c.before.withTypeOf c.after) = .ok after ∧ before ≠ after

/-- An attribute of a change means something to the server: it is not the sign, nor the type or the
length of a column whose type has the text it had. -/
def Counts (d : Dialect) (c : Change) (a : Attribute) : Prop :=
  a ≠ .unsigned ∧ (a = .type ∨ a = .length → d.TellsApart c)

/-- A change and what is left of it. The types have texts if the change concerns them. -/
structure Reduces (d : Dialect) (c k : Change) : Prop where
  compared : c.concernsType = true → ∃ types, d.comparedTypes c = .ok types
  oldName : k.oldName = c.oldName
  before : k.before = c.before
  after : k.after = c.after
  concerns : ∀ a, k.concerns a = true ↔ c.concerns a = true ∧ d.Counts c a

variable {d : Dialect} {c k : Change} {cs ks : List Change}

/-! ## One change -/

theorem tellsApart_iff : d.TellsApart c ↔
    ∃ before after, d.comparedTypes c = .ok (before, after) ∧ before ≠ after := by
  unfold TellsApart
  simp only [comparedTypes_eq_ok_iff, and_assoc]

/-- There is one way to reduce a change. -/
theorem Reduces.unique {k' : Change} (h : d.Reduces c k) (h' : d.Reduces c k') : k = k' := by
  have attributes : k.attributes = k'.attributes := by
    ext a
    rw [Bool.eq_iff_iff]
    exact (h.concerns a).trans (h'.concerns a).symm
  obtain ⟨name, _, before, after⟩ := k
  obtain ⟨name', _, before', after'⟩ := k'
  simp only [Change.mk.injEq]
  exact ⟨h.oldName.trans h'.oldName.symm, attributes, h.before.trans h'.before.symm,
    h.after.trans h'.after.symm⟩

theorem reduces_of_reduce (h : d.reduce c = .ok k) : d.Reduces c k := by
  obtain ⟨oldName, before, after⟩ := reduce_fields h
  refine ⟨fun typed => ?_, oldName, before, after, fun a => ?_⟩
  · cases compared : d.comparedTypes c with
    | ok types => exact ⟨types, rfl⟩
    | error e =>
      rw [(reduce_eq_error_iff d c e).2 ⟨typed, compared⟩] at h
      cases h
  · obtain ⟨typed, rfl⟩ | ⟨-, rfl, b, t, differ, compared⟩ | ⟨-, rfl, t, same⟩ := reduce_cases h
    · -- neither the type nor the length is an attribute of the change
      have untyped (ha : c.concerns a = true) : ¬(a = .type ∨ a = .length) := by
        rintro (rfl | rfl)
        · exact absurd (Change.concernsType_iff.2 (.inl ha)) (by simp [typed])
        · exact absurd (Change.concernsType_iff.2 (.inr ha)) (by simp [typed])
      rw [Change.concerns_without, Bool.and_eq_true, bne_iff_ne]
      constructor
      · rintro ⟨hu, ha⟩
        exact ⟨ha, hu, fun ht => absurd ht (untyped ha)⟩
      · rintro ⟨ha, hu, -⟩
        exact ⟨hu, ha⟩
    · have apart : d.TellsApart c := tellsApart_iff.2 ⟨b, t, compared, differ⟩
      rw [Change.concerns_without, Bool.and_eq_true, bne_iff_ne, Counts]
      constructor
      · rintro ⟨hu, ha⟩
        exact ⟨ha, hu, fun _ => apart⟩
      · rintro ⟨ha, hu, -⟩
        exact ⟨hu, ha⟩
    · have alike : ¬d.TellsApart c := by
        rw [tellsApart_iff]
        rintro ⟨b, t', compared, differ⟩
        rw [same] at compared
        cases compared
        exact differ rfl
      simp only [Change.concerns_untyped, Change.concerns_without, Bool.and_eq_true, bne_iff_ne,
        Counts]
      constructor
      · rintro ⟨hl, ht, hu, ha⟩
        exact ⟨ha, hu, fun h => absurd h (not_or.2 ⟨ht, hl⟩)⟩
      · rintro ⟨ha, hu, apart⟩
        exact ⟨fun hl => alike (apart (.inr hl)), fun ht => alike (apart (.inl ht)), hu, ha⟩

/-- **A change is reduced by taking out the attributes that do not count.** -/
theorem reduce_eq_ok_iff : d.reduce c = .ok k ↔ d.Reduces c k := by
  refine ⟨reduces_of_reduce, fun h => ?_⟩
  cases reduced : d.reduce c with
  | ok k' => rw [(reduces_of_reduce reduced).unique h]
  | error e =>
    obtain ⟨typed, failed⟩ := (reduce_eq_error_iff d c e).1 reduced
    obtain ⟨types, compared⟩ := h.compared typed
    rw [compared] at failed
    cases failed

/-- The types that are compared are those of the change as it was. -/
theorem Reduces.comparedTypes (h : d.Reduces c k) : d.comparedTypes k = d.comparedTypes c := by
  unfold Dialect.comparedTypes
  rw [h.before, h.after]

/-- **A reduced change is reduced to itself**: what it kept counted, and still counts. -/
theorem Reduces.self (h : d.Reduces c k) : d.Reduces k k := by
  have apart : d.TellsApart k ↔ d.TellsApart c := by
    rw [tellsApart_iff, tellsApart_iff, h.comparedTypes]
  refine ⟨fun typed => ?_, rfl, rfl, rfl, fun a => ?_⟩
  · rw [h.comparedTypes]
    rw [Change.concernsType_iff] at typed
    apply h.compared
    rw [Change.concernsType_iff]
    exact typed.imp (fun ht => ((h.concerns _).1 ht).1) fun hl => ((h.concerns _).1 hl).1
  · rw [iff_self_and]
    intro ha
    obtain ⟨-, hu, typed⟩ := (h.concerns a).1 ha
    exact ⟨hu, fun ht => apart.2 (typed ht)⟩

/-! ## The changes of a diff -/

/-- Reduced changes stay in their order, and the empty ones go. -/
theorem reduceAll_of_reduces (h : List.Forall₂ d.Reduces cs ks) :
    d.reduceAll cs = (ks.filter (!·.isEmpty), none) := by
  induction h with
  | nil => rfl
  | cons first _ ih =>
    rw [reduceAll, reduce?, reduce_eq_ok_iff.2 first, ih]
    simp only [Except.map]
    split
    · next empty => simp [empty]
    · next full => simp [full]

/-- The reduction stops at the first change that fails and forgets those after it. -/
theorem reduceAll_of_stops {first rest : List Change} {e : Error}
    (h : List.Forall₂ d.Reduces first ks) (failed : d.reduce c = .error e) :
    d.reduceAll (first ++ c :: rest) = (ks.filter (!·.isEmpty), some e) := by
  have before := reduceAll_of_reduces h
  rw [reduceAll_append _ (by rw [before]), before, reduceAll, reduce?, failed]
  simp [Except.map]

/-- All changes can be reduced, or there is a first one that cannot. -/
theorem exists_reduces_or_stops (d : Dialect) (cs : List Change) :
    (∃ ks, List.Forall₂ d.Reduces cs ks) ∨
    ∃ first c rest ks e, cs = first ++ c :: rest ∧ List.Forall₂ d.Reduces first ks ∧
      d.reduce c = .error e := by
  induction cs with
  | nil => exact .inl ⟨[], .nil⟩
  | cons c cs ih =>
    cases reduced : d.reduce c with
    | error e => exact .inr ⟨[], c, cs, [], e, rfl, .nil, reduced⟩
    | ok k =>
      have head := reduce_eq_ok_iff.1 reduced
      obtain ⟨ks, tail⟩ | ⟨first, c', rest, ks, e, rfl, tail, failed⟩ := ih
      · exact .inl ⟨k :: ks, .cons head tail⟩
      · exact .inr ⟨c :: first, c', rest, k :: ks, e, rfl, .cons head tail, failed⟩

/-- What is left of changes is reduced to itself. -/
theorem reduces_filter_self (h : List.Forall₂ d.Reduces cs ks) :
    List.Forall₂ d.Reduces (ks.filter (!·.isEmpty)) (ks.filter (!·.isEmpty)) := by
  rw [List.forall₂_same]
  intro k hk
  obtain ⟨c, -, reduces⟩ := exists_of_mem_right h k (List.mem_of_mem_filter hk)
  exact reduces.self

/-- **The diff after its changes were reduced.** Either each change could be reduced, and the diff
holds the reduced ones that are not empty; reducing it once more succeeds and changes nothing. Or
there is a first change whose types could not be compared, with the error that is the answer, and
the diff holds what is left of the changes before it. -/
theorem reduceDiff_cases (d : Dialect) (diff : TableDiff) :
    (∃ ks left, List.Forall₂ d.Reduces diff.changed ks ∧
      left = { diff with changed := ks.filter (!·.isEmpty) } ∧
      d.reduceDiff diff = (left, none) ∧ d.reduceDiff left = (left, none)) ∨
    ∃ first c rest ks e, diff.changed = first ++ c :: rest ∧
      List.Forall₂ d.Reduces first ks ∧ c.concernsType = true ∧ d.comparedTypes c = .error e ∧
      d.reduceDiff diff = ({ diff with changed := ks.filter (!·.isEmpty) }, some e) := by
  obtain ⟨ks, reduces⟩ | ⟨first, c, rest, ks, e, split, reduces, failed⟩ :=
    exists_reduces_or_stops d diff.changed
  · have again := reduceAll_of_reduces (reduces_filter_self reduces)
    rw [List.filter_filter] at again
    refine .inl ⟨ks, _, reduces, rfl, ?_, ?_⟩
    · rw [reduceDiff, reduceAll_of_reduces reduces]
    · simp only [reduceDiff, again, Bool.and_self]
  · obtain ⟨typed, compared⟩ := (reduce_eq_error_iff d c e).1 failed
    refine .inr ⟨first, c, rest, ks, e, split, reduces, typed, compared, ?_⟩
    rw [reduceDiff, split, reduceAll_of_stops reduces failed]

end Dialect

end TsqlAlter
