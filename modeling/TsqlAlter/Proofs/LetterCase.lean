import Mathlib.Data.List.Forall2
import TsqlAlter.Text.Utf8

/-!
# Letter case

Names of types are read in any case of their ASCII letters. Two texts spell one name in this sense
if they agree character by character, up to the case of an ASCII letter; a character outside ASCII
agrees with itself only, whatever Unicode folds it to.

`SameLetter` and `SameUpToCase` say of characters and of texts that they agree in this sense.

Results:
* `toLower_eq_iff`, `lower_eq_iff`: putting characters and texts in lower case is as good as
  comparing them up to case.
* `SameUpToCase.isAscii_eq`: a text outside ASCII is spelled like no ASCII text.

Left out: letter case beyond ASCII, which no name of a type has.
-/

namespace TsqlAlter.Text

/-! ## Characters -/

/-- An ASCII letter in its two cases, the capital first. -/
def IsCapitalOf (c d : Char) : Prop := 'A' ≤ c ∧ c ≤ 'Z' ∧ d.toNat = c.toNat + 32

/-- The same character, or the two cases of one ASCII letter. -/
def SameLetter (c d : Char) : Prop := c = d ∨ IsCapitalOf c d ∨ IsCapitalOf d c

theorem isCapitalOf_iff {c d : Char} :
    IsCapitalOf c d ↔ 65 ≤ c.toNat ∧ c.toNat ≤ 90 ∧ d.toNat = c.toNat + 32 := Iff.rfl

theorem toNat_toLower (c : Char) :
    c.toLower.toNat = if 65 ≤ c.toNat ∧ c.toNat ≤ 90 then c.toNat + 32 else c.toNat := by
  have capital : (c.val ≥ 'A'.val ∧ c.val ≤ 'Z'.val) ↔ 65 ≤ c.toNat ∧ c.toNat ≤ 90 := Iff.rfl
  unfold Char.toLower
  split
  · next h =>
    rw [if_pos (capital.1 h)]
    have small : c.val.toNat ≤ 90 := h.2
    show (c.val + 32).toNat = c.val.toNat + 32
    rw [UInt32.toNat_add]
    exact Nat.mod_eq_of_lt (Nat.lt_of_le_of_lt (Nat.add_le_add_right small 32) (by decide))
  · next h => rw [if_neg (mt capital.2 h)]

/-- **Two characters have one lower case exactly if they are the same letter.** -/
theorem toLower_eq_iff {c d : Char} : c.toLower = d.toLower ↔ SameLetter c d := by
  unfold SameLetter
  rw [← Char.toNat_inj, ← Char.toNat_inj, isCapitalOf_iff, isCapitalOf_iff, toNat_toLower,
    toNat_toLower]
  split <;> split <;> omega

theorem SameLetter.toNat_lt_iff {c d : Char} (h : SameLetter c d) :
    c.toNat < 128 ↔ d.toNat < 128 := by
  rcases h with rfl | h | h
  · rfl
  · have := isCapitalOf_iff.1 h
    omega
  · have := isCapitalOf_iff.1 h
    omega

/-! ## Texts -/

/-- The texts differ in the case of ASCII letters at most. -/
def SameUpToCase (s t : String) : Prop := List.Forall₂ SameLetter s.toList t.toList

/-- **Two texts have one lower case exactly if they differ in the case of letters at most.** -/
theorem lower_eq_iff {s t : String} : lower s = lower t ↔ SameUpToCase s t := by
  unfold lower SameUpToCase
  rw [String.ofList_inj, ← List.forall₂_eq_eq_eq, List.forall₂_map_left_iff,
    List.forall₂_map_right_iff]
  simp only [toLower_eq_iff]

theorem lower_lower (s : String) : lower (lower s) = lower s := by
  have small (c : Char) : c.toLower.toLower = c.toLower := by
    rw [← Char.toNat_inj, toNat_toLower, toNat_toLower]
    grind
  unfold lower
  rw [String.toList_ofList, List.map_map]
  simp only [Function.comp_def, small]

/-- A text is another spelling of its lower case. -/
theorem sameUpToCase_lower (s : String) : SameUpToCase s (lower s) :=
  lower_eq_iff.1 (lower_lower s).symm

/-- A text outside ASCII is spelled like no ASCII text. -/
theorem SameUpToCase.isAscii_eq {s t : String} (h : SameUpToCase s t) :
    isAscii s.toList = isAscii t.toList := by
  unfold SameUpToCase at h
  generalize s.toList = cs at *
  generalize t.toList = ds at *
  induction h with
  | nil => rfl
  | cons first _ ih =>
    have same := first.toNat_lt_iff
    simp only [isAscii, List.all_cons] at ih ⊢
    rw [ih, decide_eq_decide.2 same]

end TsqlAlter.Text
