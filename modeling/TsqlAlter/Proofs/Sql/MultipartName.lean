import Mathlib.Data.List.Forall2
import Mathlib.Data.List.TakeWhile
import TsqlAlter.Proofs.Results
import TsqlAlter.Proofs.Sql.Delimited
import TsqlAlter.Sql.Name
import TsqlAlter.Text.Span

/-!
# Reading names of several parts

The server reads the name of an object as parts with dots between them. A part in brackets may hold
anything, its closing brackets being doubled; a bare part ends at a dot and at whatever ends a name
where it stands. In a statement that is all but letters, digits and a few signs (`endsBare`). In a
text that is nothing but a name, as a procedure takes it for an argument, nothing else ends it
(`names?`).

`part?`, `multipart?` and `names?` are the readers of a part, of several parts and of a text that is
a name and nothing more; `Spells` says how a part may be written. `IsPlain` says which parts may be
written as they are.

Results:
* `multipart?_of_spells`: parts written one after the other are read, and the rest is left.
* `exists_spells_of_multipart?`: nothing else is read.
* `names?_eq_some_iff`: a text is read as the parts that it spells.
* `names?_joined_iff`: which parts may be written as they are, with dots between them.

Left out: parts in double quotes, which a session may allow but no statement here has, and how many
parts a name may have.
-/

namespace TsqlAlter.Sql

open Text

/-! ## The reader -/

/-- What ends a bare part in a statement: in ASCII, all but letters, digits and some signs. -/
def endsBare (c : Char) : Bool :=
  c.toNat < 128 && !(c.isAlphanum || c == '_' || c == '@' || c == '$' || c == '#')

/-- Reads one part, and says what follows it. -/
def part? (ends : Char → Bool) : List Char → Option (List Char × List Char)
  | '[' :: text => delimited? ']' text
  | text => some (text.takeWhile (fun c => c != '.' && !ends c),
      text.dropWhile (fun c => c != '.' && !ends c))

/-- How a part is written. -/
inductive Spells (ends : Char → Bool) : List Char → List Char → Prop
  | bracketed (part : List Char) : Spells ends part (bracketed part)
  | bare (part : List Char) (opening : part.head? ≠ some '[')
      (plain : ∀ c ∈ part, c ≠ '.' ∧ ends c = false) : Spells ends part part

variable {ends : Char → Bool} {part spelled text rest : List Char}
variable {names spellings : List (List Char)}

theorem exists_spells_of_part? (h : part? ends text = some (part, rest)) :
    ∃ spelled, Spells ends part spelled ∧ text = spelled ++ rest := by
  unfold part? at h
  split at h
  · next inner =>
    obtain ⟨rfl, -⟩ := delimited?_eq_some_iff.1 h
    exact ⟨_, .bracketed part, by simp [bracketed]⟩
  · next opening =>
    cases h
    refine ⟨_, .bare _ ?_ fun c hc => ?_, List.takeWhile_append_dropWhile.symm⟩
    · intro h
      cases text with
      | nil => cases h
      | cons c more =>
        rw [List.takeWhile_cons] at h
        split at h
        · cases h
          exact opening more rfl
        · cases h
    · simpa using List.mem_takeWhile_imp hc

/-- The rest starts with nothing that would go on with the part before it. -/
def Stops (ends : Char → Bool) (rest : List Char) : Prop :=
  ∀ c, rest.head? = some c → c ≠ '[' ∧ c ≠ ']' ∧ (c = '.' ∨ ends c = true)

/-- A bare part ends where the rest starts. -/
theorem bare_append (plain : ∀ c ∈ part, c ≠ '.' ∧ ends c = false) (stops : Stops ends rest) :
    (part ++ rest).takeWhile (fun c => c != '.' && !ends c) = part ∧
      (part ++ rest).dropWhile (fun c => c != '.' && !ends c) = rest := by
  refine span_append (by simpa using plain) fun c hc => ?_
  rcases (stops c hc).2.2 with rfl | ended
  · simp
  · simp [ended]

theorem part?_of_spells (h : Spells ends part spelled) (stops : Stops ends rest) :
    part? ends (spelled ++ rest) = some (part, rest) := by
  cases h with
  | bracketed =>
    have closed : rest.head? ≠ some ']' := fun h => (stops _ h).2.1 rfl
    simpa [bracketed, part?] using delimited?_doubled part closed
  | bare opening plain =>
    obtain ⟨taken, left⟩ := bare_append plain stops
    unfold part?
    split
    · next more e =>
      -- neither the part nor the rest starts with a bracket
      cases part with
      | nil =>
        rw [List.nil_append] at e
        subst e
        exact absurd rfl (stops _ rfl).1
      | cons c part =>
        cases e
        exact absurd rfl opening
    · rw [taken, left]

/-- Reads parts as long as a dot follows, and says what follows the last one. -/
def multipart? (ends : Char → Bool) (text : List Char) : Option (List (List Char) × List Char) :=
  match _h : part? ends text with
  | none => none
  | some (part, '.' :: more) =>
    (multipart? ends more).map fun (names, rest) => (part :: names, rest)
  | some (part, rest) => some ([part], rest)
termination_by text.length
decreasing_by
  obtain ⟨spelled, -, rfl⟩ := exists_spells_of_part? _h
  simp
  omega

/-- **Nothing else is read** than parts written one after the other. -/
theorem exists_spells_of_multipart? (h : multipart? ends text = some (names, rest)) :
    ∃ spellings, spellings ≠ [] ∧ List.Forall₂ (Spells ends) names spellings ∧
      text = joined '.' spellings ++ rest := by
  fun_induction multipart? ends text generalizing names rest with
  | case1 => cases h
  | case2 text part more read ih =>
    obtain ⟨⟨names', rest'⟩, tail, e⟩ := Option.map_eq_some_iff.1 h
    cases e
    obtain ⟨spelled, spells, rfl⟩ := exists_spells_of_part? read
    obtain ⟨spellings, ne, all, rfl⟩ := ih tail
    exact ⟨spelled :: spellings, by simp, .cons spells all, by simp [joined_cons ne]⟩
  | case3 text part rest' _ read =>
    cases h
    obtain ⟨spelled, spells, rfl⟩ := exists_spells_of_part? read
    exact ⟨[spelled], by simp, .cons spells .nil, rfl⟩

theorem multipart?_of_last (h : part? ends text = some (part, rest)) (dot : rest.head? ≠ some '.') :
    multipart? ends text = some ([part], rest) := by
  rw [multipart?]
  split
  · next none => simp [none] at h
  · next read =>
    rw [read] at h
    cases h
    exact absurd rfl dot
  · next read =>
    rw [read] at h
    cases h
    rfl

theorem multipart?_of_more (h : part? ends text = some (part, '.' :: rest)) :
    multipart? ends text =
      (multipart? ends rest).map fun (names, rest) => (part :: names, rest) := by
  rw [multipart?]
  split
  · next none => simp [none] at h
  · next read =>
    rw [read] at h
    cases h
    rfl
  · next other read =>
    rw [read] at h
    cases h
    exact absurd rfl (other rest)

/-- **Parts written one after the other are read**, and the rest is left, unless it starts with
something that goes on with the name. -/
theorem multipart?_of_spells (h : List.Forall₂ (Spells ends) names spellings) (ne : names ≠ [])
    (stops : Stops ends rest) (dot : rest.head? ≠ some '.') :
    multipart? ends (joined '.' spellings ++ rest) = some (names, rest) := by
  induction h with
  | nil => exact absurd rfl ne
  | @cons part spelled names spellings first more ih =>
    by_cases last : names = []
    · subst last
      cases more
      exact multipart?_of_last (part?_of_spells first stops) dot
    · have another : spellings ≠ [] := fun h => last (eq_nil_of_forall₂ more h)
      have dotted : Stops ends ('.' :: (joined '.' spellings ++ rest)) := by
        intro c hc
        cases hc
        exact ⟨by decide, by decide, .inl rfl⟩
      rw [joined_cons another, List.append_assoc, List.cons_append,
        multipart?_of_more (part?_of_spells first dotted), ih last]
      rfl

/-! ## Texts that are names -/

/-- The parts of a text that is a name and nothing more. -/
def names? (text : List Char) : Option (List (List Char)) :=
  match multipart? (fun _ => false) text with
  | some (names, []) => some names
  | _ => none

/-- **A text is read as the parts that it spells.** -/
theorem names?_eq_some_iff : names? text = some names ↔
    ∃ spellings, spellings ≠ [] ∧ List.Forall₂ (Spells fun _ => false) names spellings ∧
      text = joined '.' spellings := by
  constructor
  · intro h
    unfold names? at h
    split at h
    · next read =>
      cases h
      simpa using exists_spells_of_multipart? read
    · cases h
  · rintro ⟨spellings, ne, all, rfl⟩
    have ne' : names ≠ [] := by
      rintro rfl
      cases all
      exact ne rfl
    have stops : Stops (fun _ => false) [] := fun c hc => by cases hc
    have read := multipart?_of_spells all ne' stops (by simp)
    rw [List.append_nil] at read
    rw [names?, read]

/-- The part is read as what it is when nothing is done about it. -/
def IsPlain (part : List Char) : Prop := part.head? ≠ some '[' ∧ '.' ∉ part

instance (part : List Char) : Decidable (IsPlain part) :=
  inferInstanceAs (Decidable (part.head? ≠ some '[' ∧ '.' ∉ part))

theorem spells_self_of_isPlain (h : IsPlain part) : Spells (fun _ => false) part part := by
  refine .bare part h.1 fun c hc => ⟨?_, rfl⟩
  rintro rfl
  exact h.2 hc

/-- Brackets make a part longer. -/
theorem Spells.length_le (h : Spells ends part spelled) :
    part.length ≤ spelled.length ∧
      (spelled.length ≤ part.length → spelled = part ∧ IsPlain part) := by
  cases h with
  | bracketed =>
    have longer : (Sql.bracketed part).length = part.length + part.count ']' + 2 := by
      simp [Sql.bracketed, length_doubled]
    omega
  | bare opening plain => exact ⟨le_rfl, fun _ => ⟨rfl, opening, fun h => (plain _ h).1 rfl⟩⟩

/-- Parts with no more to them than they say are plain. -/
theorem length_joined_le (h : List.Forall₂ (Spells ends) names spellings) :
    (joined '.' names).length ≤ (joined '.' spellings).length ∧
      ((joined '.' spellings).length ≤ (joined '.' names).length →
        ∀ name ∈ names, IsPlain name) := by
  induction h with
  | nil => exact ⟨le_rfl, fun _ name h => absurd h List.not_mem_nil⟩
  | @cons part spelled names spellings first more ih =>
    obtain ⟨longer, plain⟩ := first.length_le
    by_cases last : names = []
    · subst last
      cases more
      refine ⟨longer, fun h => ?_⟩
      simpa using (plain h).2
    · have another : spellings ≠ [] := fun h => last (eq_nil_of_forall₂ more h)
      rw [joined_cons last, joined_cons another]
      simp only [List.length_append, List.length_cons]
      refine ⟨by omega, fun h => ?_⟩
      rw [List.forall_mem_cons]
      exact ⟨(plain (by omega)).2, ih.2 (by omega)⟩

/-- **Which parts may be written as they are**: those without dots that start with no bracket. Any
other part is read as something else, whatever the parts around it are. -/
theorem names?_joined_iff (ne : names ≠ []) :
    names? (joined '.' names) = some names ↔ ∀ name ∈ names, IsPlain name := by
  constructor
  · intro read
    obtain ⟨spellings, -, all, same⟩ := names?_eq_some_iff.1 read
    exact (length_joined_le all).2 (by rw [same])
  · intro plain
    refine names?_eq_some_iff.2 ⟨names, ne, ?_, rfl⟩
    rw [List.forall₂_same]
    exact fun name h => spells_self_of_isPlain (plain name h)

end TsqlAlter.Sql
