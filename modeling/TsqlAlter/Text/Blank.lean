/-!
# Blank characters

`isBlank` is the Unicode property `White_Space`, and `trim` removes blank characters from both
ends of a text.

Results:
* `trim_eq_nil_iff`: nothing is left of a text exactly when all of it is blank.
-/

namespace TsqlAlter.Text

/-- The characters with the Unicode property `White_Space`. -/
def isBlank (c : Char) : Bool :=
  let n := c.toNat
  (0x9 ≤ n && n ≤ 0xD) || n == 0x20 || n == 0x85 || n == 0xA0 || n == 0x1680 ||
  (0x2000 ≤ n && n ≤ 0x200A) || n == 0x2028 || n == 0x2029 || n == 0x202F || n == 0x205F ||
  n == 0x3000

/-- A text without the blank characters at its two ends. -/
def trim (s : List Char) : List Char :=
  ((s.dropWhile isBlank).reverse.dropWhile isBlank).reverse

/-- Nothing but blank characters; also said of the empty text. -/
def allBlank (s : List Char) : Bool := s.all isBlank

theorem dropWhile_eq_nil_of_all {p : Char → Bool} {s : List Char} (h : s.all p = true) :
    s.dropWhile p = [] := by
  induction s with
  | nil => rfl
  | cons c s ih => simp_all

theorem all_of_dropWhile_eq_nil {p : Char → Bool} {s : List Char} (h : s.dropWhile p = []) :
    s.all p = true := by
  induction s with
  | nil => rfl
  | cons c s ih =>
    rw [List.dropWhile_cons] at h
    split at h
    · next hc => simp [hc, ih h]
    · cases h

/-- Trimming leaves nothing exactly when the text is all blank. -/
theorem trim_eq_nil_iff (s : List Char) : trim s = [] ↔ allBlank s = true := by
  unfold trim allBlank
  rw [List.reverse_eq_nil_iff]
  constructor
  · intro h
    have h := all_of_dropWhile_eq_nil h
    rw [List.all_reverse] at h
    match hd : s.dropWhile isBlank with
    | [] => exact all_of_dropWhile_eq_nil hd
    | c :: rest =>
      have hc : isBlank c = true := by rw [hd] at h; simp at h; exact h.1
      have := List.head?_dropWhile_not isBlank s
      rw [hd] at this
      simp [hc] at this
  · intro h
    rw [dropWhile_eq_nil_of_all h]; rfl

end TsqlAlter.Text
