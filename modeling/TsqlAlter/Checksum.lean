import TsqlAlter.Text.Utf8

/-!
# CRC-32

The IEEE CRC-32 of a text's UTF-8 bytes: the reflected polynomial `0xEDB88320`, a register that
starts with all bits set, and a complemented result. `hash` writes it as eight hexadecimal digits.

Results:
* `absorbAll_append`: the register runs over a concatenation in two legs.
* `hexDigits_length`: the written form always has eight digits.

Left out: tables of remainders for whole bytes, with which the same register is computed faster.
-/

namespace TsqlAlter.Checksum

/-- Divides the register by one bit. -/
def shift (r : UInt32) : UInt32 :=
  if r &&& 1 = 1 then (r >>> 1) ^^^ 0xEDB88320 else r >>> 1

/-- Takes one byte into the register. -/
def absorb (r : UInt32) (b : UInt8) : UInt32 :=
  (shift ∘ shift ∘ shift ∘ shift ∘ shift ∘ shift ∘ shift ∘ shift) (r ^^^ b.toUInt32)

/-- Takes a run of bytes into the register. -/
def absorbAll (r : UInt32) (bytes : List UInt8) : UInt32 := bytes.foldl absorb r

theorem absorbAll_append (r : UInt32) (s t : List UInt8) :
    absorbAll r (s ++ t) = absorbAll (absorbAll r s) t := List.foldl_append

/-- The CRC-32 of a run of bytes. -/
def crc32 (bytes : List UInt8) : UInt32 := absorbAll 0xFFFFFFFF bytes ^^^ 0xFFFFFFFF

/-- An upper-case hexadecimal digit, of a number below sixteen. -/
def hexDigit (n : Nat) : Char :=
  if n < 10 then Char.ofNat (48 + n) else Char.ofNat (55 + n)

/-- The last `k` hexadecimal digits of a number. -/
def hexDigits : Nat → Nat → List Char
  | 0, _ => []
  | k + 1, n => hexDigits k (n / 16) ++ [hexDigit (n % 16)]

@[simp] theorem hexDigits_length (k n : Nat) : (hexDigits k n).length = k := by
  induction k generalizing n with
  | zero => rfl
  | succ k ih => simp [hexDigits, ih]

/-- The CRC-32 of a text, as eight upper-case hexadecimal digits. -/
def hash (text : String) : String :=
  String.ofList (hexDigits 8 (crc32 (Text.bytes text.toList)).toNat)

end TsqlAlter.Checksum
