import Mathlib.Data.Set.Function
import TsqlAlter.Proofs.Checksum
import TsqlAlter.Proofs.Sql.MultipartName

/-!
# Names of default constraints

The name of a default constraint is made from two checksums. It is plain: it is read as it stands,
without brackets. And it says what the checksums are, so that it is shared by two constraints
exactly if their tables and their columns have the same. Names that are much alike, such as those of
numbered columns, have different checksums.

Results:
* `spells_constraintName`: a constraint name needs no brackets.
* `constraintName_eq_iff`: constraint names are equal exactly if both checksums are.
* `constraintName_distinguishes`: the form of the names, and which names they tell apart.

Left out: checksums that are the same for names that differ in more than four adjacent bytes. There
are such names, and their constraints cannot both stand in one schema.
-/

namespace TsqlAlter.Sql

open Checksum hiding hash
open Text

variable {table table' column column' : String}

theorem toList_constraintName (table column : String) :
    (constraintName table column).toList =
      "DF_".toList ++ (Checksum.hash table).toList ++ '_' :: (Checksum.hash column).toList := by
  unfold constraintName
  rw [String.toList_append, String.toList_append, String.toList_append, List.append_assoc]
  rfl

/-! ## Names without brackets -/

theorem isAlphanum_of_isHexDigit {c : Char} (h : IsHexDigit c) : c.isAlphanum = true := by
  rcases h with ⟨low, high⟩ | ⟨low, high⟩
  · have digit : c.isDigit = true :=
      Bool.and_eq_true_iff.2 ⟨decide_eq_true low, decide_eq_true high⟩
    exact Bool.or_eq_true_iff.2 (.inr digit)
  · have below : c ≤ 'Z' := Char.le_trans high (by decide)
    have letter : c.isAlpha = true := Bool.or_eq_true_iff.2 (.inl (decide_eq_true ⟨low, below⟩))
    exact Bool.or_eq_true_iff.2 (.inl letter)

/-- Hexadecimal digits go on with a bare part. -/
theorem plain_of_isHexDigit {c : Char} (h : IsHexDigit c) : c ≠ '.' ∧ endsBare c = false := by
  have word := isAlphanum_of_isHexDigit h
  constructor
  · rintro rfl
    exact absurd word (by decide)
  · simp [endsBare, word]

/-- **A constraint name needs no brackets.** -/
theorem spells_constraintName (table column : String) :
    Spells endsBare (constraintName table column).toList (constraintName table column).toList := by
  rw [toList_constraintName]
  refine .bare _ (by simp) fun c hc => ?_
  simp only [List.mem_append, List.mem_cons] at hc
  rcases hc with (hc | hc) | rfl | hc
  · have letter : c = 'D' ∨ c = 'F' ∨ c = '_' := by simpa using hc
    rcases letter with rfl | rfl | rfl <;> decide
  · exact plain_of_isHexDigit (isHexDigit_of_mem_hash hc)
  · decide
  · exact plain_of_isHexDigit (isHexDigit_of_mem_hash hc)

/-! ## Names and checksums -/

theorem hash_eq_of_constraintName
    (h : constraintName table column = constraintName table' column') :
    Checksum.hash table = Checksum.hash table' ∧ Checksum.hash column = Checksum.hash column' := by
  have h := congrArg String.toList h
  rw [toList_constraintName, toList_constraintName, List.append_assoc, List.append_assoc] at h
  obtain ⟨tables, columns⟩ := List.append_inj (List.append_cancel_left h) (by simp [length_hash])
  exact ⟨String.toList_inj.1 tables, String.toList_inj.1 (List.cons.inj columns).2⟩

/-- Where no two names share a checksum, constraint names tell columns apart. -/
theorem eq_of_constraintName {names : Set String} (distinct : Set.InjOn Checksum.hash names)
    {m n : String} (hm : m ∈ names) (hn : n ∈ names)
    (h : constraintName table m = constraintName table n) : m = n :=
  distinct hm hn (hash_eq_of_constraintName h).2

theorem constraintName_eq_iff : constraintName table column = constraintName table' column' ↔
    Checksum.hash table = Checksum.hash table' ∧ Checksum.hash column = Checksum.hash column' := by
  refine ⟨hash_eq_of_constraintName, fun ⟨tables, columns⟩ => ?_⟩
  rw [constraintName, constraintName, tables, columns]

/-- Names that differ in at most four adjacent bytes have different checksums. -/
theorem hash_ne_of_differWithin {s t : String} (ne : s ≠ t)
    (near : DifferWithin 4 (bytes s.toList) (bytes t.toList)) :
    Checksum.hash s ≠ Checksum.hash t := by
  have apart : bytes s.toList ≠ bytes t.toList := fun h => ne (String.toList_inj.1 (bytes_inj.1 h))
  exact mt hash_eq_iff.1 (crc32_ne_of_differWithin near apart)

/-- **What the name of a default constraint says.** It is `DF_` and two runs of eight hexadecimal
digits with an underscore between them, and it needs no brackets. Two names are equal exactly if the
checksums of the tables and of the columns are. Different names of one length in bytes that differ
in four adjacent bytes at most have different checksums, and as columns of a table, or as tables
with a column of one name, they have different constraint names. -/
theorem constraintName_distinguishes (table column : String) :
    (∃ d e : List Char, (constraintName table column).toList = "DF_".toList ++ d ++ '_' :: e ∧
      d.length = 8 ∧ e.length = 8 ∧ ∀ c ∈ d ++ e, IsHexDigit c) ∧
    Spells endsBare (constraintName table column).toList (constraintName table column).toList ∧
    (∀ table' column', constraintName table column = constraintName table' column' ↔
      crc32 (bytes table.toList) = crc32 (bytes table'.toList) ∧
        crc32 (bytes column.toList) = crc32 (bytes column'.toList)) ∧
    ∀ s t : String, s ≠ t → DifferWithin 4 (bytes s.toList) (bytes t.toList) →
      crc32 (bytes s.toList) ≠ crc32 (bytes t.toList) ∧
        constraintName table s ≠ constraintName table t ∧
        constraintName s column ≠ constraintName t column := by
  refine ⟨⟨(Checksum.hash table).toList, (Checksum.hash column).toList,
    toList_constraintName table column, length_hash table, length_hash column, fun c hc => ?_⟩,
    spells_constraintName table column, fun table' column' => ?_, fun s t ne near => ?_⟩
  · rcases List.mem_append.1 hc with hc | hc
    · exact isHexDigit_of_mem_hash hc
    · exact isHexDigit_of_mem_hash hc
  · rw [constraintName_eq_iff, hash_eq_iff, hash_eq_iff]
  · have apart := hash_ne_of_differWithin ne near
    exact ⟨mt hash_eq_iff.2 apart, fun same => apart (hash_eq_of_constraintName same).2,
      fun same => apart (hash_eq_of_constraintName same).1⟩

theorem constraintName_orders_ne :
    "orders_2019" ≠ "orders_2024" ∧
    DifferWithin 4 (bytes "orders_2019".toList) (bytes "orders_2024".toList) ∧
    constraintName "T" "orders_2019" ≠ constraintName "T" "orders_2024" ∧
    constraintName "orders_2019" "C" ≠ constraintName "orders_2024" "C" := by
  have ne : "orders_2019" ≠ "orders_2024" := by decide
  have near : DifferWithin 4 (bytes "orders_2019".toList) (bytes "orders_2024".toList) :=
    differWithin_iff.2 ⟨bytes "orders_".toList, bytes "2019".toList, bytes "2024".toList, [],
      by decide, by decide, by decide, by decide⟩
  obtain ⟨-, columns, tables⟩ := (constraintName_distinguishes "T" "C").2.2.2 _ _ ne near
  exact ⟨ne, near, columns, tables⟩

example : constraintName "users" "is_active" = "DF_1483A5E9_1B5771DD" := by decide +kernel

end TsqlAlter.Sql
