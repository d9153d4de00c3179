import TsqlAlter.Proofs.Sql.TableName
import TsqlAlter.Proofs.TypeText

/-!
# Declarations by their texts

The text of a declaration is its name, its type and what follows these, with blanks in between. The
name stands in brackets, which tell its end whatever it holds. A type holds blanks only inside its
parentheses, so it ends where they are closed, or before the first blank if there are none, and what
follows it can be told from it. A collation stands there as it was given, so it can be told from
what follows it only if it is a word.

`tail` is what follows the type, clause by clause, and `IsWord` says of a collation that there is no
blank in it. `Ends` says of a text that it cannot go on with the type before it.

Results:
* `text_append_injective`: a type and what follows it are told apart by their text.
* `eq_of_text`: two declarations of one name and one collation are told apart by their texts.
* `part?_text_append`: the name is read first, and the type follows it.
* `tail_injective`: the clauses behind the type are told apart, if the collations are words.
* `declares_legibly`: a declaration is read back from its text.

Left out: collations that are no words. One that ends with `NOT NULL` cannot be told from one
without it whose column takes no nulls.
-/

namespace TsqlAlter

namespace SqlType

/-- The text is empty or starts with a blank: it cannot go on with the type before it. -/
def Ends (rest : String) : Prop := rest = "" ∨ ∃ more, rest = " " ++ more

theorem Ends.append {rest rest' : String} (h : Ends rest) (h' : Ends rest') :
    Ends (rest ++ rest') := by
  obtain rfl | ⟨more, rfl⟩ := h
  · rwa [String.empty_append]
  · exact .inr ⟨more ++ rest', String.append_assoc ..⟩

theorem ne_of_mem_size {size : Size} : ∀ c ∈ size.text.toList, c ≠ ')' := by
  rintro c hc rfl
  cases size with
  | count n => exact absurd (isDigit_of_mem_toString hc) (by decide)
  | max => exact absurd hc (by decide)

/-- The parameters of a type, if there are any, end at the first closing parenthesis. -/
theorem parameters_cases (t : SqlType) :
    t.parameters = "" ∨
      ∃ inner, t.parameters = "(" ++ inner ++ ")" ∧ ∀ c ∈ inner.toList, c ≠ ')' := by
  have sized {size : Size} (h : t.parameters = "(" ++ size.text ++ ")") :
      ∃ inner, t.parameters = "(" ++ inner ++ ")" ∧ ∀ c ∈ inner.toList, c ≠ ')' :=
    ⟨size.text, h, ne_of_mem_size⟩
  cases t
  case numeric p s =>
    refine .inr ⟨toString p ++ ", " ++ toString s, by simp [parameters, String.append_assoc], ?_⟩
    rintro c hc rfl
    simp only [String.toList_append, List.mem_append] at hc
    obtain (hc | hc) | hc := hc
    · exact absurd (isDigit_of_mem_toString hc) (by decide)
    · exact absurd hc (by decide)
    · exact absurd (isDigit_of_mem_toString hc) (by decide)
  case nchar size => exact .inr (sized rfl)
  case nvarchar size => exact .inr (sized rfl)
  case binary size => exact .inr (sized rfl)
  case varbinary size => exact .inr (sized rfl)
  case time => exact .inr ⟨"0", by decide, by simp⟩
  case datetime2 => exact .inr ⟨"6", by decide, by simp⟩
  case datetimeoffset => exact .inr ⟨"6", by decide, by simp⟩
  all_goals exact .inl rfl

/-- The keyword of a type ends at the parenthesis, or at the blank after the type. -/
theorem takeWhile_text_append (t : SqlType) {rest : String} (ends : Ends rest) :
    (t.text ++ rest).toList.takeWhile (fun c => c != '(' && c != ' ') = t.keyword.toList := by
  have plain : ∀ c ∈ t.keyword.toList, (c != '(' && c != ' ') = true := by
    cases t <;> simp [keyword]
  rw [text, String.append_assoc, String.toList_append, List.takeWhile_append_of_pos plain]
  rcases t.parameters_cases with h | ⟨inner, h, -⟩ <;> rcases ends with rfl | ⟨more, rfl⟩ <;>
    simp [h]

/-- **A type and what follows it are told apart by their text.** -/
theorem text_append_injective {t u : SqlType} {rest rest' : String} (ends : Ends rest)
    (ends' : Ends rest') (h : t.text ++ rest = u.text ++ rest') : t = u ∧ rest = rest' := by
  have keyword : t.keyword = u.keyword := by
    apply String.toList_injective
    rw [← takeWhile_text_append t ends, ← takeWhile_text_append u ends', h]
  have after : t.parameters ++ rest = u.parameters ++ rest' := by
    rw [text, text, keyword, String.append_assoc, String.append_assoc] at h
    exact (String.append_right_inj _).1 h
  -- what follows the type does not start with a parenthesis
  have opened {inner more : String} : Ends more → more ≠ "(" ++ inner := by
    rintro (rfl | ⟨more, rfl⟩) e
    · have := congrArg String.toList e
      simp at this
    · have := congrArg String.toList e
      simp at this
  have parameters : t.parameters = u.parameters := by
    obtain none | ⟨inner, some, closed⟩ := t.parameters_cases <;>
      obtain none' | ⟨inner', some', closed'⟩ := u.parameters_cases
    · rw [none, none']
    · rw [none, some', String.empty_append, String.append_assoc, String.append_assoc] at after
      exact absurd after (opened ends)
    · rw [none', some, String.empty_append, String.append_assoc, String.append_assoc] at after
      exact absurd after.symm (opened ends')
    · have upTo {inner : String} (more : String) (closed : ∀ c ∈ inner.toList, c ≠ ')') :
          ("(" ++ inner ++ ")" ++ more).toList.takeWhile (· != ')') = '(' :: inner.toList := by
        have plain : ∀ c ∈ inner.toList, (c != ')') = true := fun c hc => bne_iff_ne.2 (closed c hc)
        simp [String.toList_append, List.takeWhile_append_of_pos plain]
      rw [some, some'] at after
      have same := upTo rest closed
      rw [after, upTo rest' closed'] at same
      rw [some, some', String.toList_injective (List.cons.inj same).2]
  rw [parameters] at after
  exact ⟨text_injective (by rw [text, text, keyword, parameters]),
    (String.append_right_inj _).1 after⟩

end SqlType

namespace Declaration

/-- The text of a collation, if there is one. -/
def collationText : Option String → String
  | some collation => " COLLATE " ++ collation
  | none => ""

/-- What is said of nulls, which is something only if they are refused. -/
def nullableText (nullable : Bool) : String := if nullable then "" else " NOT NULL"

theorem ends_nullableText (nullable : Bool) : SqlType.Ends (nullableText nullable) := by
  cases nullable with
  | false => exact .inr ⟨"NOT NULL", by decide⟩
  | true => exact .inl rfl

theorem nullableText_injective {m n : Bool} (h : nullableText m = nullableText n) : m = n := by
  revert h
  cases m <;> cases n <;> decide

/-- What follows the type in a declaration. -/
def tail (d : Declaration) : String :=
  (if d.identity then " IDENTITY" else "") ++
    (collationText d.collation ++ (if d.nullable then "" else " NOT NULL"))

theorem text_eq (d : Declaration) : d.text = Sql.column d.name ++ " " ++ (d.type ++ d.tail) := by
  obtain ⟨name, type, identity, collation, nullable⟩ := d
  cases collation <;> simp only [text, tail, collationText, String.append_assoc]

theorem ends_tail (d : Declaration) : SqlType.Ends d.tail := by
  have identity : SqlType.Ends (if d.identity then " IDENTITY" else "") := by
    split
    · exact .inr ⟨"IDENTITY", by decide⟩
    · exact .inl rfl
  have collation : SqlType.Ends (collationText d.collation) := by
    cases d.collation with
    | none => exact .inl rfl
    | some collation =>
      refine .inr ⟨"COLLATE " ++ collation, ?_⟩
      rw [collationText, ← String.append_assoc]
      rfl
  exact identity.append (collation.append (ends_nullableText d.nullable))

/-- Whether the column is an identity is said first, in a word of its own. -/
theorem identity_eq_of_tail {a b : Declaration} (h : a.tail = b.tail) :
    a.identity = b.identity := by
  have word (d : Declaration) : d.tail.toList[1]? = some 'I' ↔ d.identity = true := by
    obtain ⟨name, type, identity, collation, nullable⟩ := d
    cases identity <;> cases collation <;> cases nullable <;> simp [tail, collationText]
  rw [Bool.eq_iff_iff, ← word a, ← word b, h]

/-- **Two declarations of one name and one collation are told apart by their texts.** -/
theorem eq_of_text {a b : Declaration} {t u : SqlType} (ta : a.type = t.text)
    (tb : b.type = u.text) (name : a.name = b.name) (collation : a.collation = b.collation)
    (h : a.text = b.text) : a = b := by
  rw [text_eq, text_eq, name, ta, tb] at h
  obtain ⟨rfl, same⟩ :=
    SqlType.text_append_injective a.ends_tail b.ends_tail ((String.append_right_inj _).1 h)
  have identity := identity_eq_of_tail same
  rw [tail, tail, identity, collation, String.append_right_inj, String.append_right_inj] at same
  have nullable : a.nullable = b.nullable := nullableText_injective same
  obtain ⟨n, type, i, c, m⟩ := a
  obtain ⟨n', type', i', c', m'⟩ := b
  simp_all

end Declaration

/-! ## Words -/

/-- The text holds no blank. -/
def IsWord (s : String) : Prop := ' ' ∉ s.toList

instance (s : String) : Decidable (IsWord s) := inferInstanceAs (Decidable (' ' ∉ s.toList))

/-- Letters, digits and underscores make a word. -/
theorem isWord_of_forall {s : String}
    (plain : ∀ c ∈ s.toList, c.isAlphanum = true ∨ c = '_') : IsWord s := by
  intro blank
  exact absurd (plain _ blank) (by decide)

/-- A word and what follows it are told apart by their text. -/
theorem word_append_injective {s t rest rest' : String} (word : IsWord s) (word' : IsWord t)
    (ends : SqlType.Ends rest) (ends' : SqlType.Ends rest') (h : s ++ rest = t ++ rest') :
    s = t ∧ rest = rest' := by
  -- the word ends at the first blank
  have upTo {s rest : String} (word : IsWord s) (ends : SqlType.Ends rest) :
      (s ++ rest).toList.takeWhile (· != ' ') = s.toList := by
    have stop : rest.toList = [] ∨ rest.toList.head? = some ' ' := by
      obtain rfl | ⟨more, rfl⟩ := ends <;> simp
    rw [String.toList_append, Text.takeWhile_bne_eq_iff]
    exact ⟨rest.toList, rfl, word, stop⟩
  have same : s = t := by
    rw [← String.toList_inj, ← upTo word ends, h, upTo word' ends']
  subst same
  exact ⟨rfl, (String.append_right_inj _).1 h⟩

namespace Declaration

variable {a b : Declaration}

/-! ## The clauses behind the type -/

/-- A collation is not mistaken for what is said of nulls. -/
theorem collationText_append_ne (collation rest : String) (nullable : Bool) :
    collationText (some collation) ++ rest ≠ collationText none ++ nullableText nullable := by
  intro h
  have second := congrArg (fun s => s.toList[1]?) h
  cases nullable <;> simp [collationText, nullableText] at second

/-- **The clauses behind the type are told apart**, if the collations are words. -/
theorem tail_injective (word : ∀ w ∈ a.collation, IsWord w) (word' : ∀ w ∈ b.collation, IsWord w)
    (h : a.tail = b.tail) :
    a.identity = b.identity ∧ a.collation = b.collation ∧ a.nullable = b.nullable := by
  have identity := identity_eq_of_tail h
  rw [tail, tail, identity, String.append_right_inj] at h
  refine ⟨identity, ?_⟩
  cases ha : a.collation with
  | none =>
    cases hb : b.collation with
    | none =>
      rw [ha, hb, String.append_right_inj] at h
      exact ⟨rfl, nullableText_injective h⟩
    | some w =>
      rw [ha, hb] at h
      exact (collationText_append_ne _ _ _ h.symm).elim
  | some v =>
    cases hb : b.collation with
    | none =>
      rw [ha, hb] at h
      exact (collationText_append_ne _ _ _ h).elim
    | some w =>
      rw [ha, hb, collationText, collationText, String.append_assoc, String.append_assoc,
        String.append_right_inj] at h
      obtain ⟨rfl, nullable⟩ := word_append_injective (word v ha) (word' w hb)
        (ends_nullableText _) (ends_nullableText _) h
      exact ⟨rfl, nullableText_injective nullable⟩

/-! ## The whole declaration -/

/-- **The name is read first**, whatever it holds, and the type and the clauses follow it. -/
theorem part?_text_append (d : Declaration) (more : String) :
    Sql.part? Sql.endsBare (d.text ++ more).toList =
      some (d.name.toList, (" " ++ (d.type ++ d.tail ++ more)).toList) := by
  have written : (d.text ++ more).toList =
      Sql.bracketed d.name.toList ++ ' ' :: (d.type ++ d.tail ++ more).toList := by
    rw [text_eq]
    simp [Sql.column]
  rw [written, Sql.part?_of_spells (.bracketed _) (Sql.stops_blank _)]
  simp

/-- Declarations of one text have one name, and go on alike. -/
theorem name_eq_of_text (h : a.text = b.text) :
    a.name = b.name ∧ a.type ++ a.tail = b.type ++ b.tail := by
  have read := a.part?_text_append ""
  rw [h, b.part?_text_append "", Option.some_inj, Prod.mk.injEq, String.toList_inj,
    String.toList_inj] at read
  simpa [eq_comm] using read

/-- **Declarations are told apart by their texts**, if their collations are words. -/
theorem eq_of_text_of_word {t u : SqlType} (ta : a.type = t.text) (tb : b.type = u.text)
    (word : ∀ w ∈ a.collation, IsWord w) (word' : ∀ w ∈ b.collation, IsWord w)
    (h : a.text = b.text) : a = b := by
  obtain ⟨name, after⟩ := name_eq_of_text h
  rw [ta, tb] at after
  obtain ⟨rfl, tails⟩ := SqlType.text_append_injective a.ends_tail b.ends_tail after
  obtain ⟨identity, collation, nullable⟩ := tail_injective word word' tails
  obtain ⟨n, type, i, c, m⟩ := a
  obtain ⟨n', type', i', c', m'⟩ := b
  simp_all

end Declaration

namespace Release

variable {r q : Release} {c c' : Column}

/-- A column of a known type is declared with a type. -/
theorem exists_declare_of_isKnown (r : Release) (known : c.type.isKnown = true) :
    ∃ t : SqlType, r.dialect.typeText c = .ok t.text ∧
      r.dialect.declare c = .ok ⟨c.name, t.text, c.autoincrement, c.collation, c.nullable⟩ := by
  obtain ⟨t, typed⟩ := SqlType.exists_ofColumn_of_isKnown r known
  have text := typeText_of_ofColumn typed
  exact ⟨t, text, (Dialect.declare_eq_ok_iff _ _ _).2 ⟨t.text, text, rfl⟩⟩

/-- **A declaration is read back from its text.** Columns of known types are declared, each on a
release of its own. If their collations are words, declarations of one text have one name, one type,
and the same identity flag, collation and nullability. A reader of names finds the name first, and
goes on at the blank before the type. -/
theorem declares_legibly (known : c.type.isKnown = true) (known' : c'.type.isKnown = true)
    (word : ∀ w ∈ c.collation, IsWord w) (word' : ∀ w ∈ c'.collation, IsWord w) :
    ∃ d d', r.dialect.declare c = .ok d ∧ q.dialect.declare c' = .ok d' ∧
      (d.text = d'.text → c.name = c'.name ∧ r.dialect.typeText c = q.dialect.typeText c' ∧
        c.autoincrement = c'.autoincrement ∧ c.collation = c'.collation ∧
        c.nullable = c'.nullable) ∧
      ∀ more, Sql.part? Sql.endsBare (d.text ++ more).toList =
        some (c.name.toList, (" " ++ (d.type ++ d.tail ++ more)).toList) := by
  obtain ⟨t, typed, declared⟩ := exists_declare_of_isKnown r known
  obtain ⟨t', typed', declared'⟩ := exists_declare_of_isKnown q known'
  refine ⟨_, _, declared, declared', fun h => ?_, Declaration.part?_text_append _⟩
  have same := Declaration.eq_of_text_of_word rfl rfl word word' h
  obtain ⟨name, type, identity, collation, nullable⟩ := Declaration.mk.inj same
  exact ⟨name, by rw [typed, typed', type], identity, collation, nullable⟩

/-- The name of the column goes on like a declaration. -/
def pricedColumn : Column where
  name := "price] INT NOT NULL"
  type := .decimal
  precision := some 12
  scale := some 2
  nullable := false
  collation := some "Latin1_General_CI_AS"

/-- The same column, and nulls are allowed in it. -/
def nullablePricedColumn : Column := { pricedColumn with nullable := true }

theorem declares_legibly_priced :
    pricedColumn.type.isKnown = true ∧ (∀ w ∈ pricedColumn.collation, IsWord w) ∧
    nullablePricedColumn.type.isKnown = true ∧ (∀ w ∈ nullablePricedColumn.collation, IsWord w) ∧
    ∃ d d', sql2008.dialect.declare pricedColumn = .ok d ∧
      sql2000.dialect.declare nullablePricedColumn = .ok d' ∧ d.text ≠ d'.text ∧
      Sql.part? Sql.endsBare d.text.toList =
        some ("price] INT NOT NULL".toList, (" " ++ (d.type ++ d.tail)).toList) := by
  have known : pricedColumn.type.isKnown = true := rfl
  have known' : nullablePricedColumn.type.isKnown = true := rfl
  have word : ∀ w ∈ pricedColumn.collation, IsWord w := by
    rintro w ⟨⟩
    exact isWord_of_forall (by simp)
  have word' : ∀ w ∈ nullablePricedColumn.collation, IsWord w := word
  obtain ⟨d, d', declared, declared', same, reads⟩ :=
    declares_legibly (r := sql2008) (q := sql2000) known known' word word'
  refine ⟨known, word, known', word', d, d', declared, declared', fun text => ?_, ?_⟩
  · exact absurd (same text).2.2.2.2 (by decide)
  · have read := reads ""
    rw [String.append_empty, String.append_empty] at read
    exact read

end Release

end TsqlAlter
