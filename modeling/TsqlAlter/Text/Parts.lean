/-!
# Separated and doubled text

Two elementary codes on character lists, on which every quoted form of this library is built.

* `parts sep s` cuts `s` at each occurrence of `sep`; `joined sep` puts the separator back.
* `doubled c s` writes each occurrence of `c` twice and every other character once.

Results:
* `mem_joined`: joining adds separators only.
* `joined_parts`: cutting and joining again gives the text back.
* `parts_joined`: so does joining and cutting again, if no piece holds the separator.
* `not_mem_of_mem_parts`: no part holds the separator.
* `parts_append_cons`, `joined_append`: two texts with a separator between them are cut one by one,
  and joined likewise.
* `length_doubled`: a text grows by one for each character that is doubled.
-/

namespace TsqlAlter.Text

/-! ## Separated text -/

/-- The pieces of a text between the occurrences of `sep`; there is always at least one. -/
def parts (sep : Char) : List Char → List (List Char)
  | [] => [[]]
  | c :: rest =>
    if c = sep then
      [] :: parts sep rest
    else
      match parts sep rest with
      | [] => [[c]]
      | piece :: more => (c :: piece) :: more

/-- Pieces put back together with `sep` between them. -/
def joined (sep : Char) : List (List Char) → List Char
  | [] => []
  | [piece] => piece
  | piece :: more => piece ++ sep :: joined sep more

theorem parts_ne_nil (sep : Char) (s : List Char) : parts sep s ≠ [] := by
  cases s with
  | nil => simp [parts]
  | cons c rest =>
    unfold parts
    split
    · simp
    · split <;> simp

theorem joined_cons {sep : Char} {piece : List Char} {more : List (List Char)}
    (h : more ≠ []) : joined sep (piece :: more) = piece ++ sep :: joined sep more := by
  cases more with
  | nil => exact absurd rfl h
  | cons _ _ => rfl

/-- Joining adds separators only. -/
theorem mem_joined {c sep : Char} (h : c ≠ sep) {pieces : List (List Char)} :
    c ∈ joined sep pieces ↔ ∃ piece ∈ pieces, c ∈ piece := by
  induction pieces with
  | nil => simp [joined]
  | cons piece more ih =>
    by_cases last : more = []
    · simp [last, joined]
    · rw [joined_cons last]
      simp [ih, h]

/-- Cutting at a separator loses nothing. -/
theorem joined_parts (sep : Char) (s : List Char) : joined sep (parts sep s) = s := by
  induction s with
  | nil => rfl
  | cons c rest ih =>
    unfold parts
    split
    · next h =>
      rw [joined_cons (parts_ne_nil sep rest), ih, h, List.nil_append]
    · match hp : parts sep rest with
      | [] => exact absurd hp (parts_ne_nil sep rest)
      | [piece] => rw [hp] at ih; simpa [joined] using ih
      | piece :: next :: more => rw [hp] at ih; simpa [joined] using ih

/-- No piece holds the separator. -/
theorem not_mem_of_mem_parts {sep : Char} {s piece : List Char} (h : piece ∈ parts sep s) :
    sep ∉ piece := by
  induction s generalizing piece with
  | nil => simp_all [parts]
  | cons c rest ih =>
    unfold parts at h
    split at h
    · rcases List.mem_cons.1 h with rfl | h
      · simp
      · exact ih h
    · next hc =>
      match hp : parts sep rest with
      | [] => exact absurd hp (parts_ne_nil sep rest)
      | first :: more =>
        rw [hp] at h ih
        rcases List.mem_cons.1 h with rfl | h
        · have := ih (List.mem_cons_self ..)
          simp [this, Ne.symm hc]
        · exact ih (List.mem_cons_of_mem _ h)

/-- A separator always cuts. -/
theorem parts_append_cons (sep : Char) (s t : List Char) :
    parts sep (s ++ sep :: t) = parts sep s ++ parts sep t := by
  induction s with
  | nil => simp [parts]
  | cons c s ih =>
    rw [List.cons_append, parts, parts, ih]
    split
    · rfl
    · cases h : parts sep s with
      | nil => exact absurd h (parts_ne_nil sep s)
      | cons piece more => rfl

/-- A text without the separator is its only piece. -/
theorem parts_eq_singleton_iff {sep : Char} {s : List Char} : parts sep s = [s] ↔ sep ∉ s := by
  constructor
  · intro h
    exact not_mem_of_mem_parts (h ▸ List.mem_singleton_self s)
  · intro h
    induction s with
    | nil => rfl
    | cons c s ih =>
      rw [List.mem_cons, not_or] at h
      rw [parts, ih h.2, if_neg (Ne.symm h.1)]

/-- Pieces without the separator are found again. -/
theorem parts_joined {sep : Char} {pieces : List (List Char)} (ne : pieces ≠ [])
    (free : ∀ piece ∈ pieces, sep ∉ piece) : parts sep (joined sep pieces) = pieces := by
  induction pieces with
  | nil => exact absurd rfl ne
  | cons piece more ih =>
    have first : parts sep piece = [piece] := parts_eq_singleton_iff.2 (free piece (by simp))
    by_cases last : more = []
    · subst last
      exact first
    · rw [joined_cons last, parts_append_cons, first,
        ih last fun p hp => free p (List.mem_cons_of_mem _ hp)]
      rfl

/-- Rows of pieces are joined like pieces. -/
theorem joined_append {sep : Char} {pieces more : List (List Char)} (ne : pieces ≠ [])
    (ne' : more ≠ []) :
    joined sep (pieces ++ more) = joined sep pieces ++ sep :: joined sep more := by
  induction pieces with
  | nil => exact absurd rfl ne
  | cons piece pieces ih =>
    rw [List.cons_append, joined_cons (by simp [ne'])]
    by_cases last : pieces = []
    · subst last
      rfl
    · rw [ih last, joined_cons last, List.append_assoc, List.cons_append]

/-! ## Doubled characters -/

/-- A text with each `c` written twice. -/
def doubled (c : Char) (s : List Char) : List Char :=
  s.flatMap fun x => if x = c then [c, c] else [x]

@[simp] theorem doubled_nil (c : Char) : doubled c [] = [] := rfl

theorem doubled_cons (c x : Char) (s : List Char) :
    doubled c (x :: s) = (if x = c then [c, c] else [x]) ++ doubled c s := rfl

@[simp] theorem mem_doubled {c x : Char} {s : List Char} : x ∈ doubled c s ↔ x ∈ s := by
  induction s with
  | nil => rfl
  | cons y s ih =>
    rw [doubled_cons, List.mem_append, ih, List.mem_cons]
    by_cases h : y = c <;> simp [h]

theorem length_doubled (c : Char) (s : List Char) :
    (doubled c s).length = s.length + s.count c := by
  induction s with
  | nil => rfl
  | cons x s ih =>
    rw [doubled_cons, List.length_append, ih, List.count_cons, List.length_cons]
    by_cases h : x = c <;> simp [h] <;> omega

end TsqlAlter.Text
