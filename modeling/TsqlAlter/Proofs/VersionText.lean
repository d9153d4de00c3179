import TsqlAlter.Release
import TsqlAlter.Text.Span

/-!
# Version texts

Which texts name a release, and which one. A version may stand between blank characters and may say
anything behind its first point. What stands before the point has to be a numeral: digits, with a
plus sign in front or without, of a number that fits into thirty-two bits. The number alone decides
which release is meant, and a greater one never means an older release.

`Surrounds` and `IsMajorText` say how a version is cut, `HasMajor` which number it has, `Covers`
which numbers a release has, and `Unfit` which major parts name none.

Results:
* `trim_eq_iff`: what is left of a text without the blank characters around it.
* `majorText_eq_iff`: what stands before the first point of a version.
* `ofVersion_eq_ok_iff`, `ofVersion_eq_error_iff`: which releases texts name, and which name none.

Left out: what stands behind the first point, which may be anything.
-/

namespace TsqlAlter

namespace Text

variable {s core : List Char}

/-! ## Blank characters around a text -/

/-- The text is another one with blank characters around it, all that there are. -/
structure Surrounds (s core : List Char) : Prop where
  around : ∃ left right, s = left ++ core ++ right ∧ allBlank left = true ∧ allBlank right = true
  first : ∀ c, core.head? = some c → isBlank c = false
  last : ∀ c, core.getLast? = some c → isBlank c = false

/-- **What is left of a text** is what blank characters surround. -/
theorem trim_eq_iff : trim s = core ↔ Surrounds s core := by
  unfold trim
  rw [List.reverse_eq_iff, dropWhile_eq_iff]
  constructor
  · rintro ⟨behind, cut, blankBehind, last⟩
    have tail : s.dropWhile isBlank = core ++ behind.reverse := by
      rw [← List.reverse_inj, cut, List.reverse_append, List.reverse_reverse]
    obtain ⟨left, rfl, blankLeft, first⟩ := dropWhile_eq_iff.1 tail
    refine ⟨⟨left, behind.reverse, by rw [List.append_assoc], ?_, ?_⟩, fun c hc => first c ?_, ?_⟩
    · exact List.all_eq_true.2 blankLeft
    · exact List.all_eq_true.2 fun c hc => blankBehind c (List.mem_reverse.1 hc)
    · rw [List.head?_append, hc]
      rfl
    · rwa [List.head?_reverse] at last
  · rintro ⟨⟨left, right, rfl, blankLeft, blankRight⟩, first, last⟩
    rw [allBlank, List.all_eq_true] at blankLeft blankRight
    by_cases empty : core = []
    · subst empty
      refine ⟨[], ?_, by simp, by simp⟩
      have all : ∀ c ∈ left ++ [] ++ right, isBlank c = true := by
        simpa [or_imp, forall_and] using ⟨blankLeft, blankRight⟩
      rw [dropWhile_eq_nil_of_all (List.all_eq_true.2 all)]
      rfl
    · refine ⟨right.reverse, ?_, fun c hc => blankRight c (List.mem_reverse.1 hc), ?_⟩
      · obtain ⟨d, more, rfl⟩ := List.exists_cons_of_ne_nil empty
        have stop : ∀ c, (d :: more ++ right).head? = some c → isBlank c = false := first
        rw [List.append_assoc, (span_append blankLeft stop).2, List.reverse_append]
      · rwa [List.head?_reverse]

end Text

namespace Release

open Text

variable {version : String} {major : List Char} {r : Release} {n : Nat}

/-! ## What counts in a version -/

/-- What stands before the first point of a version, or all of it if there is none, blank characters
around the version apart. -/
def IsMajorText (version : String) (major : List Char) : Prop :=
  ∃ core rest, Surrounds version.toList core ∧ core = major ++ rest ∧ '.' ∉ major ∧
    (rest = [] ∨ rest.head? = some '.')

theorem majorText_eq_iff : majorText version = major ↔ IsMajorText version major := by
  unfold majorText IsMajorText
  rw [takeWhile_bne_eq_iff]
  constructor
  · rintro ⟨rest, cut, h⟩
    exact ⟨trim version.toList, rest, trim_eq_iff.1 rfl, cut, h⟩
  · rintro ⟨core, rest, surrounds, cut, h⟩
    exact ⟨rest, (trim_eq_iff.2 surrounds).trans cut, h⟩

/-- The major numbers of a release. -/
def Covers : Release → Nat → Prop
  | sql2000, n => n ≤ 8
  | sql2005, n => n = 9
  | sql2008, n => n = 10
  | sql2012, n => 11 ≤ n

theorem ofMajor_eq_iff : ofMajor n = r ↔ r.Covers n := by
  unfold ofMajor
  split
  · cases r <;> simp [Covers] <;> omega
  · split
    · cases r <;> simp [Covers] <;> omega
    · split <;> cases r <;> simp [Covers] <;> omega

theorem exists_covers (n : Nat) : ∃ r, Covers r n := ⟨ofMajor n, ofMajor_eq_iff.1 rfl⟩

/-- The numeral before the first point of the version is one of this number. -/
def HasMajor (version : String) (n : Nat) : Prop :=
  ∃ major, IsMajorText version major ∧ IsNumeral major n

theorem hasMajor_iff : HasMajor version n ↔ IsNumeral (majorText version) n := by
  constructor
  · rintro ⟨major, text, numeral⟩
    rwa [majorText_eq_iff.2 text]
  · exact fun numeral => ⟨majorText version, majorText_eq_iff.1 rfl, numeral⟩

/-! ## Which texts name a release -/

theorem ofVersion?_eq_some_iff :
    ofVersion? version = some r ↔ ∃ n, HasMajor version n ∧ n < UInt32.size ∧ r.Covers n := by
  unfold ofVersion?
  simp only [Option.map_eq_some_iff, unsigned?_eq_some_iff, hasMajor_iff, ofMajor_eq_iff, and_assoc]

/-- **Which texts name a release**: those whose major number fits into thirty-two bits. -/
theorem ofVersion_eq_ok_iff :
    ofVersion version = .ok r ↔ ∃ n, HasMajor version n ∧ n < UInt32.size ∧ r.Covers n := by
  rw [← ofVersion?_eq_some_iff]
  unfold ofVersion
  cases ofVersion? version <;> simp

/-- **Which texts name none**, and what is said about them. -/
theorem ofVersion_eq_error_iff {e : Error} : ofVersion version = .error e ↔
    e = .invalidVersion version ∧ ¬∃ n, HasMajor version n ∧ n < UInt32.size := by
  have none : ofVersion? version = none ↔ ¬∃ n, HasMajor version n ∧ n < UInt32.size := by
    rw [ofVersion?_eq_none_iff, Option.eq_none_iff_forall_ne_some]
    simp only [ne_eq, unsigned?_eq_some_iff, hasMajor_iff, not_exists]
  rw [← none]
  unfold ofVersion
  cases ofVersion? version <;> simp [eq_comm]

/-- A major part that is no numeral, or one of a number that does not fit. -/
def Unfit (major : List Char) : Prop :=
  (∃ c ∈ major, c.isDigit = false ∧ c ≠ '+') ∨ major = ['+'] ∨
    ∃ n, IsNumeral major n ∧ UInt32.size ≤ n

theorem Unfit.not_isNumeral (h : Unfit major) (small : n < UInt32.size) : ¬IsNumeral major n := by
  intro numeral
  rcases h with ⟨c, hc, other, sign⟩ | rfl | ⟨m, large, le⟩
  · rcases numeral.mem hc with digit | rfl
    · rw [digit] at other
      cases other
    · exact sign rfl
  · obtain ⟨digits, rfl | same, ne, all, -⟩ := numeral
    · exact absurd (all '+' List.mem_cons_self) (by decide)
    · exact ne (List.cons.inj same).2.symm
  · rw [large.unique numeral] at le
    omega

/-- **The grammar of versions.** A text names a release exactly if its major number fits into
thirty-two bits. The number decides which one it is, and a greater number names no older release.
Every other text is refused as it was given: with any other character than digits and a plus sign in
the major part, with a sign alone, and with a number that is too great. -/
theorem ofVersion_grammar (version : String) :
    ((∃ r, ofVersion version = .ok r) ↔ ∃ n, HasMajor version n ∧ n < UInt32.size) ∧
    (∀ r n, ofVersion version = .ok r → HasMajor version n → r.Covers n) ∧
    (∀ version' r r' m n, ofVersion version = .ok r → ofVersion version' = .ok r' →
      HasMajor version m → HasMajor version' n → m ≤ n → r.rank ≤ r'.rank ∧ (m = n → r = r')) ∧
    (∀ e, ofVersion version = .error e ↔
      e = .invalidVersion version ∧ ¬∃ n, HasMajor version n ∧ n < UInt32.size) ∧
    ∀ major, IsMajorText version major → Unfit major →
      ofVersion version = .error (.invalidVersion version) := by
  have covers {version r n} (named : ofVersion version = .ok r) (major : HasMajor version n) :
      r.Covers n := by
    obtain ⟨m, other, -, covers⟩ := ofVersion_eq_ok_iff.1 named
    rwa [(hasMajor_iff.1 major).unique (hasMajor_iff.1 other)]
  refine ⟨?_, fun r n => covers, ?_, fun e => ofVersion_eq_error_iff, fun major text unfit => ?_⟩
  · simp only [ofVersion_eq_ok_iff]
    constructor
    · rintro ⟨r, n, major, small, -⟩
      exact ⟨n, major, small⟩
    · rintro ⟨n, major, small⟩
      obtain ⟨r, covers⟩ := exists_covers n
      exact ⟨r, n, major, small, covers⟩
  · intro version' r r' m n named named' major major' le
    have first : ofMajor m = r := ofMajor_eq_iff.2 (covers named major)
    have second : ofMajor n = r' := ofMajor_eq_iff.2 (covers named' major')
    rw [← first, ← second]
    exact ⟨ofMajor_mono le, fun same => same ▸ rfl⟩
  · refine ofVersion_eq_error_iff.2 ⟨rfl, ?_⟩
    rintro ⟨n, major', small⟩
    rw [hasMajor_iff, majorText_eq_iff.2 text] at major'
    exact unfit.not_isNumeral small major'

theorem ofVersion_grammar_padded :
    HasMajor "\u00A0 +0010.fifty " 10 ∧ HasMajor "11" 11 ∧
    (∃ r r', ofVersion "\u00A0 +0010.fifty " = .ok r ∧ ofVersion "11" = .ok r' ∧
      r.Covers 10 ∧ r.rank ≤ r'.rank) ∧
    IsMajorText "4294967305.0" "4294967305".toList ∧ Unfit "4294967305".toList ∧
    ofVersion "4294967305.0" = .error (.invalidVersion "4294967305.0") := by
  have ten : HasMajor "\u00A0 +0010.fifty " 10 :=
    hasMajor_iff.2 ⟨"0010".toList, .inr (by decide), by decide, by simp, by decide⟩
  have eleven : HasMajor "11" 11 :=
    hasMajor_iff.2 ⟨"11".toList, .inl (by decide), by decide, by simp, by decide⟩
  have text : IsMajorText "4294967305.0" "4294967305".toList := majorText_eq_iff.1 (by decide)
  have unfit : Unfit "4294967305".toList := .inr (.inr ⟨4294967305,
    ⟨"4294967305".toList, .inl rfl, by decide, by simp, by decide⟩, by decide⟩)
  obtain ⟨named, covers, mono, -⟩ := ofVersion_grammar "\u00A0 +0010.fifty "
  obtain ⟨r, hr⟩ := named.2 ⟨10, ten, by decide⟩
  obtain ⟨r', hr'⟩ := (ofVersion_grammar "11").1.2 ⟨11, eleven, by decide⟩
  obtain ⟨-, -, -, -, refused⟩ := ofVersion_grammar "4294967305.0"
  exact ⟨ten, eleven, ⟨r, r', hr, hr', covers r 10 hr ten,
    (mono "11" r r' 10 11 hr hr' ten eleven (by decide)).1⟩, text, unfit, refused _ text unfit⟩

end Release

end TsqlAlter
