import TsqlAlter.Text.Parts

/-!
# Reading delimited texts

A name in brackets and a text in quotes double their closing delimiter inside. A reader that has
passed the opening delimiter takes what it finds up to a closing one that is not doubled. It cannot
be misled: it reads exactly what doubling writes, provided that no further closing delimiter
follows.

`delimited?` is that reader, for any closing delimiter.

Results:
* `delimited?_eq_some_iff`: what is read is what was doubled, and the rest is what follows it.
-/

namespace TsqlAlter.Text

/-- Reads up to the closing delimiter, a doubled one standing for itself: what is read, and what
follows the delimiter. -/
def delimited? (close : Char) : List Char → Option (List Char × List Char)
  | [] => none
  | c :: text =>
    if c = close then
      match text with
      | [] => some ([], [])
      | d :: more =>
        if d = close then (delimited? close more).map fun (s, rest) => (close :: s, rest)
        else some ([], d :: more)
    else (delimited? close text).map fun (s, rest) => (c :: s, rest)

variable {close : Char} {text s rest : List Char}

/-- What was doubled is read again. -/
theorem delimited?_doubled (s : List Char) (stop : rest.head? ≠ some close) :
    delimited? close (doubled close s ++ close :: rest) = some (s, rest) := by
  induction s with
  | nil =>
    cases rest with
    | nil => simp [delimited?]
    | cons d more =>
      have hd : d ≠ close := by simpa using stop
      simp [delimited?, hd]
  | cons c s ih =>
    by_cases hc : c = close
    · subst hc
      simp [doubled_cons, delimited?, ih]
    · rw [doubled_cons, if_neg hc, List.singleton_append, List.cons_append, delimited?.eq_def]
      simp [hc, ih]

/-- **What is read is what was doubled**, and the rest does not go on with the delimiter. -/
theorem delimited?_eq_some_iff : delimited? close text = some (s, rest) ↔
    text = doubled close s ++ close :: rest ∧ rest.head? ≠ some close := by
  constructor
  · intro h
    fun_induction delimited? close text generalizing s rest with
    | case1 => cases h
    | case2 =>
      cases h
      exact ⟨rfl, by simp⟩
    | case3 more ih =>
      obtain ⟨⟨s', rest'⟩, read, e⟩ := Option.map_eq_some_iff.1 h
      cases e
      obtain ⟨rfl, stop⟩ := ih read
      exact ⟨by simp [doubled_cons], stop⟩
    | case4 d more hd =>
      cases h
      exact ⟨rfl, by simpa using hd⟩
    | case5 c text hc ih =>
      obtain ⟨⟨s', rest'⟩, read, e⟩ := Option.map_eq_some_iff.1 h
      cases e
      obtain ⟨rfl, stop⟩ := ih read
      exact ⟨by simp [doubled_cons, hc], stop⟩
  · rintro ⟨rfl, stop⟩
    exact delimited?_doubled s stop

end TsqlAlter.Text
