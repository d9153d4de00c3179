import TsqlAlter.Plan.Dialect

/-!
# Types by their texts

A dialect compares types by their texts. That is as good as comparing the types: the keyword is what
stands before the parenthesis, and the parameters can be read off the rest. An older release knows
fewer types, and its type of a column is a function of the newer release's one (`onRelease`), so two
columns that have one type on a release have one type on every older release.

Results:
* `text_injective`: two types with one text are one type.
* `ofColumn_onRelease`: the type on an older release is decided by the type on a newer one.
* `typeText_eq_of_newer`: columns that are alike on a release are alike on every older one.

Left out: newer releases. What an old release has one type for, a newer one may have two.
-/

namespace TsqlAlter

theorem toString_nat_injective {m n : Nat} (h : toString m = toString n) : m = n := by
  have digits := congrArg (fun s : String => Nat.ofDigitChars 10 s.toList 0) h
  simpa [Nat.toString_eq_ofList_toDigits] using digits

/-- Decimal digits only. -/
theorem isDigit_of_mem_toString {n : Nat} {c : Char} (h : c ∈ (toString n).toList) :
    c.isDigit = true := by
  rw [Nat.toString_eq_ofList_toDigits, String.toList_ofList] at h
  exact Nat.isDigit_of_mem_toDigits (by decide) (by decide) h

theorem Size.text_injective {s t : Size} (h : s.text = t.text) : s = t := by
  have word (n : Nat) : toString n ≠ "MAX" := fun e => by
    have letter : 'M' ∈ (toString n).toList := by rw [e]; decide
    exact absurd (isDigit_of_mem_toString letter) (by decide)
  cases s with
  | count m =>
    cases t with
    | count n => rw [toString_nat_injective h]
    | max => exact absurd h (word m)
  | max =>
    cases t with
    | count n => exact absurd h.symm (word n)
    | max => rfl

namespace SqlType

/-! ## The keyword and the parameters -/

/-- The parameters of a type, if there are any, start with a parenthesis. -/
theorem parameters_eq (t : SqlType) :
    t.parameters = "" ∨ ∃ rest, t.parameters = "(" ++ rest := by
  cases t
  case numeric p s => exact .inr ⟨toString p ++ ", " ++ toString s ++ ")", by
    simp [parameters, String.append_assoc]⟩
  case nchar size => exact .inr ⟨size.text ++ ")", by simp [parameters, String.append_assoc]⟩
  case nvarchar size => exact .inr ⟨size.text ++ ")", by simp [parameters, String.append_assoc]⟩
  case binary size => exact .inr ⟨size.text ++ ")", by simp [parameters, String.append_assoc]⟩
  case varbinary size => exact .inr ⟨size.text ++ ")", by simp [parameters, String.append_assoc]⟩
  case time => exact .inr ⟨"0)", by decide⟩
  case datetime2 => exact .inr ⟨"6)", by decide⟩
  case datetimeoffset => exact .inr ⟨"6)", by decide⟩
  all_goals exact .inl rfl

/-- The keyword is what stands before the parenthesis. -/
theorem takeWhile_text (t : SqlType) :
    t.text.toList.takeWhile (· != '(') = t.keyword.toList := by
  have plain : ∀ c ∈ t.keyword.toList, (c != '(') = true := by
    cases t <;> simp [keyword]
  rw [text, String.toList_append, List.takeWhile_append_of_pos plain]
  rcases t.parameters_eq with h | ⟨rest, h⟩ <;> simp [h]

theorem keyword_eq_of_text {t u : SqlType} (h : t.text = u.text) : t.keyword = u.keyword := by
  apply String.toList_injective
  rw [← takeWhile_text, ← takeWhile_text, h]

theorem parameters_eq_of_text {t u : SqlType} (h : t.text = u.text) :
    t.parameters = u.parameters := by
  have keyword := keyword_eq_of_text h
  rw [text, text, keyword] at h
  exact String.append_right_inj _ |>.1 h

theorem parenthesized_injective {s t : String} (h : "(" ++ s ++ ")" = "(" ++ t ++ ")") : s = t :=
  (String.append_right_inj _).1 ((String.append_left_inj _).1 h)

/-- Two numerals with a comma between them are told apart by their text. -/
theorem numerals_injective {p q s t : Nat}
    (h : toString p ++ ", " ++ toString s = toString q ++ ", " ++ toString t) : p = q ∧ s = t := by
  have first (m n : Nat) :
      (toString m ++ ", " ++ toString n).toList.takeWhile Char.isDigit = (toString m).toList := by
    rw [String.append_assoc, String.toList_append,
      List.takeWhile_append_of_pos fun c hc => isDigit_of_mem_toString hc]
    simp
  have hp : p = q := by
    apply toString_nat_injective
    apply String.toList_injective
    rw [← first p s, ← first q t, h]
  subst hp
  exact ⟨rfl, toString_nat_injective ((String.append_right_inj _).1 h)⟩

/-- Two types with one text are one type. -/
theorem text_injective {t u : SqlType} (h : t.text = u.text) : t = u := by
  have keywords := keyword_eq_of_text h
  have parameters := parameters_eq_of_text h
  -- types of different keywords first; what stays are pairs of one constructor
  cases t <;> cases u <;> first | rfl | (simp [keyword] at keywords; done) | skip
  case numeric.numeric p s q t =>
    have inner : toString p ++ ", " ++ toString s = toString q ++ ", " ++ toString t :=
      parenthesized_injective (by simpa [SqlType.parameters, String.append_assoc] using parameters)
    obtain ⟨rfl, rfl⟩ := numerals_injective inner
    rfl
  case nchar.nchar s t =>
    rw [Size.text_injective (parenthesized_injective parameters)]
  case nvarchar.nvarchar s t =>
    rw [Size.text_injective (parenthesized_injective parameters)]
  case binary.binary s t =>
    rw [Size.text_injective (parenthesized_injective parameters)]
  case varbinary.varbinary s t =>
    rw [Size.text_injective (parenthesized_injective parameters)]

/-! ## Older releases -/

/-- The type that a release has in the place of a type of a newer one. -/
def onRelease (r : Release) : SqlType → SqlType
  | nchar .max => if r.knowsMax then nchar .max else ntext
  | nvarchar .max => largeText r
  | binary .max => if r.knowsMax then binary .max else image
  | varbinary .max => largeBinary r
  | date => temporal r date
  | time => temporal r time
  | datetime2 => temporal r datetime2
  | datetimeoffset => temporal r datetimeoffset
  | t => t

end SqlType

namespace Release

/-- A release that does not know `MAX` has none older that does. -/
theorem knowsMax_eq_false {r q : Release} (h : r.rank ≤ q.rank) (hq : q.knowsMax = false) :
    r.knowsMax = false := by
  simp only [knowsMax, decide_eq_false_iff_not, Nat.not_le] at hq ⊢
  exact Nat.lt_of_le_of_lt h hq

/-- A release that does not tell dates from times has none older that does. -/
theorem knowsTemporal_eq_false {r q : Release} (h : r.rank ≤ q.rank)
    (hq : q.knowsTemporal = false) : r.knowsTemporal = false := by
  simp only [knowsTemporal, decide_eq_false_iff_not, Nat.not_le] at hq ⊢
  exact Nat.lt_of_le_of_lt h hq

end Release

namespace SqlType

variable {r q : Release}

/-- A choice that does not depend on the release. -/
theorem ite_onRelease {p : Prop} [Decidable p] {old old' new new' : SqlType}
    (yes : old = onRelease r new) (no : old' = onRelease r new') :
    (if p then old else old') = onRelease r (if p then new else new') := by
  split
  · exact yes
  · exact no

/-- A type of size `MAX`, or another one in its place. -/
theorem max_onRelease (h : r.rank ≤ q.rank) (large : Release → SqlType) {sized : SqlType}
    (older : large r = onRelease r (large q))
    (own : onRelease r sized = if r.knowsMax then sized else large r) :
    (if r.knowsMax then sized else large r) =
      onRelease r (if q.knowsMax then sized else large q) := by
  cases hq : q.knowsMax with
  | false =>
    have hr : r.knowsMax = false := Release.knowsMax_eq_false h hq
    rw [hr]
    exact older
  | true => exact own.symm

theorem largeText_onRelease (h : r.rank ≤ q.rank) : largeText r = onRelease r (largeText q) :=
  max_onRelease h (fun _ => ntext) rfl rfl

theorem largeBinary_onRelease (h : r.rank ≤ q.rank) :
    largeBinary r = onRelease r (largeBinary q) :=
  max_onRelease h (fun _ => image) rfl rfl

/-- The types for dates and times fall together on the same releases. -/
theorem temporal_onRelease (h : r.rank ≤ q.rank) {t : SqlType}
    (ht : onRelease r t = temporal r t) : temporal r t = onRelease r (temporal q t) := by
  unfold temporal at *
  cases hq : q.knowsTemporal
  · have hr : r.knowsTemporal = false := Release.knowsTemporal_eq_false h hq
    simp [hr, onRelease]
  · simpa using ht.symm

theorem ofString_onRelease (h : r.rank ≤ q.rank) (length : Option UInt32) (fixed : Bool) :
    ofString r length fixed = onRelease r (ofString q length fixed) := by
  refine ite_onRelease (largeText_onRelease h) (ite_onRelease ?_ (ite_onRelease ?_
    (max_onRelease h largeText (largeText_onRelease h) ?_)))
  · cases fixed <;> rfl
  · cases fixed <;> rfl
  · cases fixed <;> cases hr : r.knowsMax <;> simp [onRelease, largeText, hr]

theorem ofBinary_onRelease (h : r.rank ≤ q.rank) (length : Option UInt32) (fixed : Bool) :
    ofBinary r length fixed = onRelease r (ofBinary q length fixed) := by
  refine ite_onRelease ?_ (ite_onRelease ?_
    (max_onRelease h largeBinary (largeBinary_onRelease h) ?_))
  · cases fixed <;> rfl
  · cases fixed <;> rfl
  · cases fixed <;> cases hr : r.knowsMax <;> simp [onRelease, largeBinary, hr]

/-- **The type on an older release is decided by the type on a newer one.** -/
theorem ofColumn_onRelease (h : r.rank ≤ q.rank) (c : Column) :
    ofColumn r c = (ofColumn q c).map (onRelease r) := by
  unfold ofColumn
  cases c.type with
  | string => exact congrArg Except.ok (ofString_onRelease h _ _)
  | binary => exact congrArg Except.ok (ofBinary_onRelease h _ _)
  | text => exact congrArg Except.ok (largeText_onRelease h)
  | json => exact congrArg Except.ok (largeText_onRelease h)
  | blob => exact congrArg Except.ok (largeBinary_onRelease h)
  | date => exact congrArg Except.ok (temporal_onRelease h rfl)
  | time => exact congrArg Except.ok (temporal_onRelease h rfl)
  | datetime => exact congrArg Except.ok (temporal_onRelease h rfl)
  | datetimetz => exact congrArg Except.ok (temporal_onRelease h rfl)
  | _ => rfl

end SqlType

/-! ## Type texts of columns -/

/-- A column of a known type has an SQL type. -/
theorem SqlType.exists_ofColumn_of_isKnown (r : Release) {c : Column}
    (known : c.type.isKnown = true) : ∃ t, ofColumn r c = .ok t := by
  have typed := isOk_ofColumn r c
  rw [known] at typed
  cases h : ofColumn r c with
  | error e =>
    rw [h] at typed
    cases typed
  | ok t => exact ⟨t, rfl⟩

namespace Release

theorem typeText_eq_ok_iff (r : Release) (c : Column) (text : String) :
    r.dialect.typeText c = .ok text ↔ ∃ t, SqlType.ofColumn r c = .ok t ∧ text = t.text := by
  unfold Release.dialect
  dsimp only
  cases SqlType.ofColumn r c <;> simp [Except.map, eq_comm]

theorem typeText_of_ofColumn {r : Release} {c : Column} {t : SqlType}
    (typed : SqlType.ofColumn r c = .ok t) : r.dialect.typeText c = .ok t.text :=
  (typeText_eq_ok_iff r c _).2 ⟨t, typed, rfl⟩

/-- An unknown type fails, in the same way on every release. -/
theorem typeText_eq_error_iff (r : Release) (c : Column) (e : Error) :
    r.dialect.typeText c = .error e ↔
      ∃ type, c.type = .unknown type ∧ e = .unrenderableType c.name type := by
  unfold Release.dialect SqlType.ofColumn
  dsimp only
  cases c.type <;> simp [Except.map, eq_comm]

/-- Which columns have a type text does not depend on the release. -/
theorem exists_typeText_of_ok {q : Release} {c : Column} {text : String}
    (h : q.dialect.typeText c = .ok text) (r : Release) : ∃ t, r.dialect.typeText c = .ok t := by
  cases hr : r.dialect.typeText c with
  | ok t => exact ⟨t, rfl⟩
  | error e =>
    rw [(typeText_eq_error_iff q c e).2 ((typeText_eq_error_iff r c e).1 hr)] at h
    cases h

/-- **Columns that are alike on a release are alike on every older one.** -/
theorem typeText_eq_of_newer {r q : Release} (h : r.rank ≤ q.rank) {a b : Column} {text : String}
    (ha : q.dialect.typeText a = .ok text) (hb : q.dialect.typeText b = .ok text) :
    r.dialect.typeText a = r.dialect.typeText b := by
  obtain ⟨t, hat, rfl⟩ := (typeText_eq_ok_iff q a text).1 ha
  obtain ⟨u, hbu, htu⟩ := (typeText_eq_ok_iff q b t.text).1 hb
  have same : t = u := SqlType.text_injective htu
  show (SqlType.ofColumn r a).map SqlType.text = (SqlType.ofColumn r b).map SqlType.text
  rw [SqlType.ofColumn_onRelease h, SqlType.ofColumn_onRelease h, hat, hbu, same]

end Release

end TsqlAlter
