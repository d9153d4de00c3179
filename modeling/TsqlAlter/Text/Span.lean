/-!
# Leading characters of a class

`List.takeWhile` takes the leading characters of a class from a text, and `List.dropWhile` leaves
the rest. They cut a text where the class ends, and a text can be cut there in one way only. The
class of all characters but one is that of a text up to a mark.

Results:
* `span_append`: a text is cut behind characters of the class, if none of them follows.
* `takeWhile_eq_iff`, `dropWhile_eq_iff`: what is taken, and what is left.
* `span_append_cons`, `takeWhile_bne_eq_iff`: the same for a text up to a mark.
-/

namespace TsqlAlter.Text

variable {p : Char → Bool} {s part rest : List Char}

/-- Characters of the class are taken up to one that is none of them. -/
theorem span_append (inside : ∀ c ∈ part, p c = true)
    (stop : ∀ c, rest.head? = some c → p c = false) :
    (part ++ rest).takeWhile p = part ∧ (part ++ rest).dropWhile p = rest := by
  rw [List.takeWhile_append_of_pos inside, List.dropWhile_append_of_pos inside]
  cases rest with
  | nil => exact ⟨List.append_nil part, rfl⟩
  | cons c rest => simp [stop c rfl]

/-- What is left starts with no character of the class. -/
theorem stop_of_dropWhile {c : Char} (h : (s.dropWhile p).head? = some c) : p c = false := by
  have stop := List.head?_dropWhile_not p s
  rw [h] at stop
  exact stop

theorem takeWhile_eq_iff : s.takeWhile p = part ↔ ∃ rest, s = part ++ rest ∧
    (∀ c ∈ part, p c = true) ∧ ∀ c, rest.head? = some c → p c = false := by
  constructor
  · rintro rfl
    refine ⟨s.dropWhile p, List.takeWhile_append_dropWhile.symm, fun c hc => ?_,
      fun c => stop_of_dropWhile⟩
    exact List.all_eq_true.1 List.all_takeWhile c hc
  · rintro ⟨rest, rfl, inside, stop⟩
    exact (span_append inside stop).1

theorem dropWhile_eq_iff : s.dropWhile p = rest ↔ ∃ part, s = part ++ rest ∧
    (∀ c ∈ part, p c = true) ∧ ∀ c, rest.head? = some c → p c = false := by
  constructor
  · rintro rfl
    refine ⟨s.takeWhile p, List.takeWhile_append_dropWhile.symm, fun c hc => ?_,
      fun c => stop_of_dropWhile⟩
    exact List.all_eq_true.1 List.all_takeWhile c hc
  · rintro ⟨part, rfl, inside, stop⟩
    exact (span_append inside stop).2

/-! ## Texts up to a mark -/

variable {mark : Char}

theorem forall_bne_iff : (∀ c ∈ s, (c != mark) = true) ↔ mark ∉ s := by
  simp only [bne_iff_ne]
  exact ⟨fun h hm => h mark hm rfl, fun h c hc e => h (e ▸ hc)⟩

theorem stop_bne_iff : (∀ c, rest.head? = some c → (c != mark) = false) ↔
    rest = [] ∨ rest.head? = some mark := by
  cases rest <;> simp

/-- A text is cut at the first mark. -/
theorem span_append_cons (free : mark ∉ part) (rest : List Char) :
    (part ++ mark :: rest).takeWhile (· != mark) = part ∧
      (part ++ mark :: rest).dropWhile (· != mark) = mark :: rest :=
  span_append (forall_bne_iff.2 free) (stop_bne_iff.2 (.inr rfl))

theorem takeWhile_bne_eq_iff : s.takeWhile (· != mark) = part ↔
    ∃ rest, s = part ++ rest ∧ mark ∉ part ∧ (rest = [] ∨ rest.head? = some mark) := by
  simp only [takeWhile_eq_iff, forall_bne_iff, stop_bne_iff]

end TsqlAlter.Text
