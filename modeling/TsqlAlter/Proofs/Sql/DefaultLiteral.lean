import Mathlib.Logic.Function.Defs
import TsqlAlter.Proofs.Sql.Delimited
import TsqlAlter.Sql.Literal
import TsqlAlter.Sql.Statement
import TsqlAlter.Text.Numeral

/-!
# Reading default literals

The literal of a default is read again as its value. A string stands in quotes and may hold quotes
of its own, doubled; since the literal goes on into a statement, a quote that was taken for the
closing one would turn the rest of the string into SQL text. An integer is a decimal numeral.

The reader of a string looks at the quotes and at the mark in front of them. Without the mark the
server reads the string in a code page, so only ASCII characters are safe in it.

`integer?` and `stringLiteral?` are the readers, and `default?` is the default that a statement
adds.

Results:
* `integer?_toString`: an integer is read from its numeral.
* `stringLiteral?_append`: a string is read from its literal, and what follows the literal is left.
* `Statement.text_of_default?`: in a statement, no quote follows the literal of a default.
* `reads_default`: the literals of strings and integers are read as what they stand for.

Left out: literals continued over the end of a line, and those of numbers with a fraction, of truth
values and of expressions, which nothing has to be read back from.
-/

namespace TsqlAlter

namespace Text

/-! ## Numerals -/

/-- Reads a decimal numeral that may have a minus sign. -/
def integer? : List Char → Option Int
  | '-' :: digits => (natural? digits).map fun n => -Int.ofNat n
  | digits => (natural? digits).map Int.ofNat

/-- An integer is read from its numeral. -/
theorem integer?_toString (i : Int) : integer? (toString i).toList = some i := by
  by_cases negative : i < 0
  · have same : -Int.ofNat i.natAbs = i :=
      (Int.eq_neg_natAbs_of_nonpos (Int.le_of_lt negative)).symm
    rw [toList_toString_of_neg negative, integer?, natural?_toDigits, Option.map_some, same]
  · obtain ⟨n, rfl⟩ := Int.eq_ofNat_of_zero_le (Int.not_lt.1 negative)
    rw [toList_toString_natCast]
    unfold integer?
    split
    · next digits signed =>
      have minus : '-' ∈ Nat.toDigits 10 n := signed ▸ List.mem_cons_self
      exact absurd minus (not_mem_toDigits (by decide) n)
    · rw [natural?_toDigits, Option.map_some, Int.ofNat_eq_natCast]

end Text

namespace Statement

/-- The default that a statement adds. -/
def default? : Statement → Option DefaultConstraint
  | addColumn _ _ default => default
  | addDefault _ default _ => some default
  | _ => none

/-- The literal of a default ends the statement, or a word follows it. -/
theorem text_of_default? {s : Statement} {d : DefaultConstraint} (h : s.default? = some d) :
    ∃ before rest, s.text = before ++ " DEFAULT " ++ (d.literal ++ rest) ∧
      rest.toList.head? ≠ some '\x27' := by
  cases s
  case addColumn table column default =>
    cases h
    refine ⟨"ALTER TABLE " ++ Sql.table table ++ " ADD " ++ column.text ++
      (" CONSTRAINT " ++ d.name), "", ?_, by simp⟩
    have constraint : " " ++ d.text = " CONSTRAINT " ++ d.name ++ " DEFAULT " ++ d.literal := by
      simp only [DefaultConstraint.text, ← String.append_assoc]
      rfl
    change "ALTER TABLE " ++ Sql.table table ++ " ADD " ++ column.text ++ (" " ++ d.text) = _
    rw [constraint]
    simp only [String.append_assoc, String.append_empty]
  case addDefault table default column =>
    cases h
    refine ⟨"ALTER TABLE " ++ Sql.table table ++ " ADD " ++ ("CONSTRAINT " ++ d.name),
      " FOR " ++ Sql.column column, ?_, by simp⟩
    change "ALTER TABLE " ++ Sql.table table ++ " ADD " ++
      ("CONSTRAINT " ++ d.name ++ " DEFAULT " ++ d.literal) ++ " FOR " ++ Sql.column column = _
    simp only [String.append_assoc]
  all_goals cases h

end Statement

namespace Sql

open Text

/-! ## String literals -/

/-- Reads a string literal: the string, and what follows the literal. -/
def stringLiteral? : List Char → Option (List Char × List Char)
  | 'N' :: '\x27' :: text => delimited? '\x27' text
  | '\x27' :: text => (delimited? '\x27' text).filter fun (s, _) => isAscii s
  | _ => none

theorem toList_literal (s : String) :
    (literal s).toList = '\x27' :: (doubled '\x27' s.toList ++ ['\x27']) :=
  String.toList_ofList

/-- **A string is read from its literal**, and what follows the literal is left. -/
theorem stringLiteral?_append (s : String) {rest : List Char} (stop : rest.head? ≠ some '\x27') :
    stringLiteral? ((stringLiteral s).toList ++ rest) = some (s.toList, rest) := by
  have read : delimited? '\x27' (doubled '\x27' s.toList ++ ['\x27'] ++ rest) =
      some (s.toList, rest) := by
    rw [List.append_assoc]
    exact delimited?_doubled s.toList stop
  unfold stringLiteral
  split
  · next ascii =>
    rw [toList_literal, List.cons_append, stringLiteral?, read]
    simp [ascii]
  · rw [String.toList_append, toList_literal]
    exact read

/-- A string is marked exactly if it holds a character beyond ASCII. -/
theorem head?_stringLiteral_iff (s : String) :
    (stringLiteral s).toList.head? = some 'N' ↔ ∃ c ∈ s.toList, 128 ≤ c.toNat := by
  have ascii : isAscii s.toList = true ↔ ¬∃ c ∈ s.toList, 128 ≤ c.toNat := by
    simp [isAscii]
  unfold stringLiteral
  split
  · next plain => simp [toList_literal, ascii.1 plain]
  · next plain =>
    have marked := Decidable.not_not.1 (mt ascii.2 plain)
    simp [String.toList_append, marked]

/-- **Default literals are read as what they stand for.** The literal of a string is marked exactly
if it holds a character beyond ASCII. Whatever follows it, other than a further quote, a reader
takes the literal and nothing more, and finds the string; so it is in every statement that adds the
default. Different strings have different literals. The literal of an integer is a numeral of its
value. -/
theorem reads_default (column : String) :
    (∀ s : String, ∃ text, ofDefault column (.string s) = .ok text ∧
      (text.toList.head? = some 'N' ↔ ∃ c ∈ s.toList, 128 ≤ c.toNat) ∧
      (∀ rest : List Char, rest.head? ≠ some '\x27' →
        stringLiteral? (text.toList ++ rest) = some (s.toList, rest)) ∧
      ∀ (added : Statement) (name : String), added.default? = some ⟨name, text⟩ →
        ∃ before rest, added.text = before ++ " DEFAULT " ++ (text ++ rest) ∧
          stringLiteral? (text ++ rest).toList = some (s.toList, rest.toList)) ∧
    (Function.Injective fun s => ofDefault column (.string s)) ∧
    ∀ i : Int64, ∃ text, ofDefault column (.integer i) = .ok text ∧
      integer? text.toList = some i.toInt := by
  refine ⟨fun s => ?_, fun s t same => ?_, fun i => ?_⟩
  · refine ⟨stringLiteral s, rfl, head?_stringLiteral_iff s,
      fun rest stop => stringLiteral?_append s stop, fun added name h => ?_⟩
    obtain ⟨before, rest, text, stop⟩ := Statement.text_of_default? h
    refine ⟨before, rest, text, ?_⟩
    rw [String.toList_append, stringLiteral?_append s stop]
  · have literals : stringLiteral s = stringLiteral t := Except.ok.inj same
    have stop : ([] : List Char).head? ≠ some '\x27' := by simp
    have read := stringLiteral?_append s stop
    rw [literals, stringLiteral?_append t stop, Option.some_inj, Prod.mk.injEq] at read
    exact String.toList_inj.1 read.1.symm
  · exact ⟨toString i.toInt, rfl, integer?_toString i.toInt⟩

theorem reads_default_quoted :
    " FOR [A]".toList.head? ≠ some '\x27' ∧
    ∃ text, ofDefault "A" (.string "'; DROP TABLE café --''") = .ok text ∧
      text.toList.head? = some 'N' ∧
      stringLiteral? (text.toList ++ " FOR [A]".toList) =
        some ("'; DROP TABLE café --''".toList, " FOR [A]".toList) := by
  have stop : " FOR [A]".toList.head? ≠ some '\x27' := by decide
  obtain ⟨text, written, marked, read, -⟩ := (reads_default "A").1 "'; DROP TABLE café --''"
  exact ⟨stop, text, written, marked.2 ⟨'é', by decide, by decide⟩, read _ stop⟩

end Sql

end TsqlAlter
