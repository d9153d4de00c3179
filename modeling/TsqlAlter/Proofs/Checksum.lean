import Mathlib.Logic.Function.Iterate
import TsqlAlter.Checksum
import TsqlAlter.Number.Power
import TsqlAlter.Text.Utf8

/-!
# Checksums that differ

Dividing the register by a bit is linear in exclusive or, and loses nothing: the polynomial has its
top bit set, so the top bit of the result tells which bit went out. A register of thirty-two bits
therefore has room for four bytes. Taking them in is the same as adding them as one word and
dividing by all its bits, and two runs of bytes that differ in four adjacent ones only never have
the same checksum.

`word` makes one number of up to four bytes, the first one lowest, and `DifferWithin` says of two
runs of bytes of one length that they agree outside of some adjacent places.

Results:
* `shift_xor`, `shift_injective`: dividing by a bit is linear and one-to-one.
* `absorbAll_of_length_le`: up to four bytes are taken in as one word.
* `crc32_ne_of_differWithin`: checksums tell apart what differs in at most four adjacent bytes.
* `hash_eq_iff`: the written forms are equal exactly if the checksums are.

Left out: bytes that differ further apart, for which two checksums may well be the same, and runs of
bytes of different lengths.
-/

namespace TsqlAlter.Checksum

variable {r s : UInt32} {v w : List UInt8}

/-! ## Dividing by a bit -/

/-- What the bit that goes out adds to the register. -/
def feedback (r : UInt32) : UInt32 := if r.toNat % 2 = 1 then 0xEDB88320 else 0

theorem toNat_shiftRight_one (r : UInt32) : (r >>> 1).toNat = r.toNat / 2 := by
  rw [UInt32.toNat_shiftRight]
  rfl

theorem shift_eq (r : UInt32) : shift r = (r >>> 1) ^^^ feedback r := by
  have odd : r &&& 1 = 1 ↔ r.toNat % 2 = 1 := by
    rw [← UInt32.toNat_inj, UInt32.toNat_and, UInt32.toNat_one, Nat.and_one_is_mod]
  unfold shift feedback
  by_cases h : r.toNat % 2 = 1
  · rw [if_pos (odd.2 h), if_pos h]
  · rw [if_neg (mt odd.1 h), if_neg h, UInt32.xor_zero]

theorem feedback_xor (r s : UInt32) : feedback (r ^^^ s) = feedback r ^^^ feedback s := by
  unfold feedback
  simp only [UInt32.toNat_xor, Nat.xor_mod_two_eq_one]
  by_cases hr : r.toNat % 2 = 1 <;> by_cases hs : s.toNat % 2 = 1 <;> simp [hr, hs]

/-- **Dividing by a bit is linear.** -/
theorem shift_xor (r s : UInt32) : shift (r ^^^ s) = shift r ^^^ shift s := by
  rw [shift_eq, shift_eq, shift_eq, UInt32.shiftRight_xor, feedback_xor]
  ac_rfl

theorem iterate_shift_xor (k : Nat) (r s : UInt32) :
    shift^[k] (r ^^^ s) = shift^[k] r ^^^ shift^[k] s := by
  induction k generalizing r s with
  | zero => rfl
  | succ k ih => rw [Function.iterate_succ_apply, shift_xor, ih]; rfl

/-- Only zero is divided to zero: half a register is less than the polynomial. -/
theorem eq_zero_of_shift (h : shift r = 0) : r = 0 := by
  rw [shift_eq, UInt32.xor_eq_zero_iff, ← UInt32.toNat_inj, toNat_shiftRight_one] at h
  have small : r.toNat < 4294967296 := r.toNat_lt
  unfold feedback at h
  split at h
  · have big : UInt32.toNat 0xEDB88320 = 0xEDB88320 := rfl
    omega
  · have zero : UInt32.toNat 0 = 0 := rfl
    rw [← UInt32.toNat_inj]
    omega

/-- **Dividing by a bit is one-to-one.** -/
theorem shift_injective : Function.Injective shift := by
  intro r s h
  have zero : shift (r ^^^ s) = 0 := by rw [shift_xor, h, UInt32.xor_self]
  exact UInt32.xor_eq_zero_iff.1 (eq_zero_of_shift zero)

/-- A register that ends in zeros is divided by them as a number. -/
theorem toNat_iterate_shift {k m : Nat} (h : r.toNat = m * twoTo k) :
    (shift^[k] r).toNat = m := by
  induction k generalizing r with
  | zero => exact h.trans (Nat.mul_one m)
  | succ k ih =>
    have even : r.toNat = m * twoTo k * 2 := by rw [h, twoTo_succ, Nat.mul_assoc]
    rw [Function.iterate_succ_apply]
    refine ih ?_
    rw [shift_eq, feedback, if_neg (by omega), UInt32.xor_zero, toNat_shiftRight_one]
    omega

/-! ## Taking in bytes -/

theorem absorb_eq (r : UInt32) (b : UInt8) : absorb r b = shift^[8] (r ^^^ b.toUInt32) := rfl

theorem absorbAll_cons (r : UInt32) (b : UInt8) (w : List UInt8) :
    absorbAll r (b :: w) = absorbAll (absorb r b) w := rfl

theorem absorb_injective (b : UInt8) : Function.Injective fun r => absorb r b := by
  intro r s h
  exact (UInt32.xor_left_inj b.toUInt32).1 (shift_injective.iterate 8 h)

/-- Bytes that follow do not bring two registers together. -/
theorem absorbAll_injective (w : List UInt8) : Function.Injective fun r => absorbAll r w := by
  induction w with
  | nil => exact fun r s h => h
  | cons b w ih => exact fun r s h => absorb_injective b (ih h)

/-- The word of at most four bytes, the first one lowest. -/
def word : List UInt8 → UInt32
  | [] => 0
  | b :: w => b.toUInt32 ^^^ (word w <<< 8)

theorem toNat_shiftLeft_eight (h : r.toNat < twoTo 24) : (r <<< 8).toNat = r.toNat * twoTo 8 := by
  have fits : r.toNat * twoTo 8 < 4294967296 := Nat.mul_lt_mul_of_pos_right h (twoTo_pos 8)
  rw [UInt32.toNat_shiftLeft, show UInt32.toNat 8 % 32 = 8 from rfl, Nat.shiftLeft_eq]
  exact Nat.mod_eq_of_lt fits

theorem toNat_word_lt (h : w.length ≤ 4) : (word w).toNat < twoTo (8 * w.length) := by
  induction w with
  | nil => decide
  | cons b w ih =>
    rw [List.length_cons] at h
    have tail : (word w).toNat < twoTo (8 * w.length) := ih (by omega)
    have room : (word w).toNat < twoTo 24 := Nat.lt_of_lt_of_le tail (twoTo_mono (by omega))
    have first : b.toNat < twoTo (8 * (w.length + 1)) :=
      Nat.lt_of_lt_of_le b.toNat_lt (twoTo_mono (show 8 ≤ 8 * (w.length + 1) by omega))
    have rest : (word w).toNat * twoTo 8 < twoTo (8 * (w.length + 1)) := by
      rw [Nat.mul_succ, twoTo_add]
      exact Nat.mul_lt_mul_of_pos_right tail (twoTo_pos 8)
    rw [word, UInt32.toNat_xor, toNat_shiftLeft_eight room, UInt8.toNat_toUInt32, List.length_cons]
    exact Nat.xor_lt_two_pow first rest

/-- Three bytes still have room for one more. -/
theorem toNat_word_lt_of_le (h : w.length ≤ 3) : (word w).toNat < twoTo 24 :=
  Nat.lt_of_lt_of_le (toNat_word_lt (Nat.le_succ_of_le h)) (twoTo_mono (by omega))

/-- **Up to four bytes are taken in as one word**, which is divided by all its bits. -/
theorem absorbAll_of_length_le (r : UInt32) (h : w.length ≤ 4) :
    absorbAll r w = shift^[8 * w.length] (r ^^^ word w) := by
  induction w generalizing r with
  | nil => exact UInt32.xor_zero.symm
  | cons b w ih =>
    rw [List.length_cons] at h
    have raised : shift^[8] (word w <<< 8) = word w :=
      UInt32.toNat_inj.1
        (toNat_iterate_shift (toNat_shiftLeft_eight (toNat_word_lt_of_le (by omega))))
    have taken : absorb r b ^^^ word w = shift^[8] (r ^^^ word (b :: w)) := by
      rw [absorb_eq, word, ← UInt32.xor_assoc, iterate_shift_xor 8 (r ^^^ b.toUInt32), raised]
    rw [absorbAll_cons, ih _ (by omega), taken, ← Function.iterate_add_apply, List.length_cons,
      Nat.mul_succ]

theorem toUInt8_shiftLeft_eight (r : UInt32) : (r <<< 8).toUInt8 = 0 := by
  rw [← UInt8.toNat_inj, UInt32.toNat_toUInt8, UInt32.toNat_shiftLeft,
    show UInt32.toNat 8 % 32 = 8 from rfl, Nat.shiftLeft_eq, show UInt8.toNat 0 = 0 from rfl]
  omega

/-- Different bytes make different words. -/
theorem word_inj (hv : v.length ≤ 4) (length_eq : v.length = w.length) :
    word v = word w ↔ v = w := by
  induction v generalizing w with
  | nil =>
    cases w with
    | nil => simp
    | cons => cases length_eq
  | cons b v ih =>
    cases w with
    | nil => cases length_eq
    | cons c w =>
      rw [List.length_cons] at hv
      have same : v.length = w.length := Nat.succ.inj length_eq
      refine ⟨fun h => ?_, fun h => h ▸ rfl⟩
      have first : b = c := by
        have low := congrArg UInt32.toUInt8 h
        simpa [word, toUInt8_shiftLeft_eight] using low
      rw [word, word, first, UInt32.xor_right_inj, ← UInt32.toNat_inj,
        toNat_shiftLeft_eight (toNat_word_lt_of_le (by omega)),
        toNat_shiftLeft_eight (toNat_word_lt_of_le (by omega))] at h
      have rest := UInt32.toNat_inj.1 (Nat.eq_of_mul_eq_mul_right (twoTo_pos 8) h)
      rw [first, (ih (by omega) same).1 rest]

/-- Four bytes are never taken in like four others. -/
theorem absorbAll_inj (r : UInt32) (hv : v.length ≤ 4) (length_eq : v.length = w.length) :
    absorbAll r v = absorbAll r w ↔ v = w := by
  rw [absorbAll_of_length_le r hv, absorbAll_of_length_le r (length_eq ▸ hv), ← length_eq,
    (shift_injective.iterate _).eq_iff, UInt32.xor_right_inj, word_inj hv length_eq]

/-! ## Runs of bytes that differ in a few places -/

/-- Runs of bytes of one length that agree outside of `k` adjacent places. -/
structure DifferWithin (k : Nat) (s t : List UInt8) : Prop where
  length_eq : s.length = t.length
  agree : ∃ i, ∀ j, j < i ∨ i + k ≤ j → s[j]? = t[j]?

/-- What lies before the places, and what lies behind them, is common to both. -/
theorem differWithin_iff {k : Nat} {s t : List UInt8} :
    DifferWithin k s t ↔ ∃ before v w after, s = before ++ v ++ after ∧ t = before ++ w ++ after ∧
      v.length = w.length ∧ v.length ≤ k := by
  constructor
  · rintro ⟨length_eq, i, agree⟩
    have before : s.take i = t.take i := by
      refine List.ext_getElem? fun j => ?_
      rw [List.getElem?_take, List.getElem?_take]
      by_cases h : j < i
      · rw [if_pos h, if_pos h, agree j (.inl h)]
      · rw [if_neg h, if_neg h]
    have after : s.drop (i + k) = t.drop (i + k) := by
      refine List.ext_getElem? fun j => ?_
      rw [List.getElem?_drop, List.getElem?_drop, agree _ (.inr (by omega))]
    have parts (l : List UInt8) : l = l.take i ++ (l.drop i).take k ++ l.drop (i + k) := by
      rw [← List.drop_drop, List.append_assoc, List.take_append_drop, List.take_append_drop]
    refine ⟨s.take i, (s.drop i).take k, (t.drop i).take k, s.drop (i + k), parts s, ?_, ?_, ?_⟩
    · rw [before, after]
      exact parts t
    · simp [length_eq]
    · exact List.length_take_le k _
  · rintro ⟨before, v, w, after, rfl, rfl, length_eq, short⟩
    refine ⟨by simp [length_eq], before.length, fun j hj => ?_⟩
    rw [List.append_assoc, List.append_assoc]
    rcases hj with hj | hj
    · rw [List.getElem?_append_left hj, List.getElem?_append_left hj]
    · rw [List.getElem?_append_right (by omega), List.getElem?_append_right (by omega),
        List.getElem?_append_right (by omega), List.getElem?_append_right (by omega), length_eq]

/-- **Checksums tell apart what differs in at most four adjacent bytes.** -/
theorem crc32_ne_of_differWithin {s t : List UInt8} (h : DifferWithin 4 s t) (ne : s ≠ t) :
    crc32 s ≠ crc32 t := by
  obtain ⟨before, v, w, after, rfl, rfl, length_eq, short⟩ := differWithin_iff.1 h
  intro same
  have registers := (UInt32.xor_left_inj _).1 same
  rw [absorbAll_append, absorbAll_append, absorbAll_append, absorbAll_append] at registers
  have inner := (absorbAll_inj _ short length_eq).1 (absorbAll_injective after registers)
  exact ne (inner ▸ rfl)

/-! ## The written form -/

/-- An upper-case hexadecimal digit. -/
def IsHexDigit (c : Char) : Prop := ('0' ≤ c ∧ c ≤ '9') ∨ ('A' ≤ c ∧ c ≤ 'F')

theorem isHexDigit_iff {c : Char} : IsHexDigit c ↔
    (48 ≤ c.toNat ∧ c.toNat ≤ 57) ∨ (65 ≤ c.toNat ∧ c.toNat ≤ 70) := by
  simp only [IsHexDigit, Char.le_def, UInt32.le_iff_toNat_le]
  rfl

theorem toNat_hexDigit {n : Nat} (h : n < 16) :
    (hexDigit n).toNat = if n < 10 then 48 + n else 55 + n := by
  have code (k : Nat) (hk : k < 128) : (Char.ofNat k).toNat = k := by
    have valid : k.isValidChar := .inl (by omega)
    rw [Char.ofNat, dif_pos valid]
    rfl
  unfold hexDigit
  split
  · exact code _ (by omega)
  · exact code _ (by omega)

theorem isHexDigit_hexDigit {n : Nat} (h : n < 16) : IsHexDigit (hexDigit n) := by
  rw [isHexDigit_iff, toNat_hexDigit h]
  split <;> omega

theorem isHexDigit_of_mem_hexDigits {k n : Nat} {c : Char} (h : c ∈ hexDigits k n) :
    IsHexDigit c := by
  induction k generalizing n with
  | zero => exact absurd h List.not_mem_nil
  | succ k ih =>
    rw [hexDigits, List.mem_append, List.mem_singleton] at h
    rcases h with h | rfl
    · exact ih h
    · exact isHexDigit_hexDigit (Nat.mod_lt n (by decide))

theorem hexDigit_inj {m n : Nat} (hm : m < 16) (hn : n < 16) :
    hexDigit m = hexDigit n ↔ m = n := by
  refine ⟨fun h => ?_, fun h => h ▸ rfl⟩
  have codes := congrArg Char.toNat h
  rw [toNat_hexDigit hm, toNat_hexDigit hn] at codes
  split at codes <;> split at codes <;> omega

/-- As many digits as there is room for say which number it is. -/
theorem hexDigits_inj {k m n : Nat} (hm : m < twoTo (4 * k)) (hn : n < twoTo (4 * k)) :
    hexDigits k m = hexDigits k n ↔ m = n := by
  induction k generalizing m n with
  | zero =>
    rw [Nat.mul_zero, twoTo_zero] at hm hn
    simp only [hexDigits, true_iff]
    omega
  | succ k ih =>
    rw [Nat.mul_succ, twoTo_add, show twoTo 4 = 16 from rfl] at hm hn
    refine ⟨fun h => ?_, fun h => h ▸ rfl⟩
    obtain ⟨front, last⟩ := List.append_inj' h rfl
    have high : m / 16 = n / 16 := (ih (by omega) (by omega)).1 front
    have low : m % 16 = n % 16 :=
      (hexDigit_inj (by omega) (by omega)).1 (List.singleton_inj.1 last)
    omega

/-- **The written forms are equal exactly if the checksums are.** -/
theorem hash_eq_iff {s t : String} :
    hash s = hash t ↔ crc32 (Text.bytes s.toList) = crc32 (Text.bytes t.toList) := by
  unfold hash
  rw [String.ofList_inj, hexDigits_inj (UInt32.toNat_lt _) (UInt32.toNat_lt _), UInt32.toNat_inj]

theorem length_hash (s : String) : (hash s).toList.length = 8 := by
  simp [hash]

theorem isHexDigit_of_mem_hash {s : String} {c : Char} (h : c ∈ (hash s).toList) :
    IsHexDigit c := by
  rw [hash, String.toList_ofList] at h
  exact isHexDigit_of_mem_hexDigits h

example : hash "123456789" = "CBF43926" := by decide +kernel

end TsqlAlter.Checksum
