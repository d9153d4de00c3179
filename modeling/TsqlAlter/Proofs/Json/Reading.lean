import TsqlAlter.Proofs.Json.Grammar
import TsqlAlter.Text.Span

/-!
# Reading what is spelled

A text that spells a tree by the grammar is read as this tree. A spelled value in front of any text
is cut off as the tokens it is made of, provided that what follows does not go on with a number
(`Delimits`); the machine that was waiting for a value has then read it, whatever is still open
around it (`Awaits`). From a value this goes on to items, to members and to the whole text.

Results:
* `scan_spelled` for strings and numerals: the scanners take what is spelled and leave the rest.
* `Spelled.run_eq`: a value is read, wherever one is awaited.
* `Document.ofText_spelled`: a text is read as the tree it spells.

Left out: how a text that breaks is read. What is spelled does not break.
-/

namespace TsqlAlter.Json

/-! ## Strings -/

namespace Text

/-- The scanner takes a piece off and goes on. -/
theorem scan_piece {p : Piece} {s : List Char} (h : p.Spelled s) (rest : List Char) :
    scan (s ++ rest) = (p :: (scan rest).1, (scan rest).2) := by
  cases h with
  | plain c visible quote backslash =>
    have visible : ¬c < ' ' := Char.not_lt.2 visible
    rw [List.singleton_append, scan.eq_def]
    simp only [if_neg quote, if_neg backslash, if_neg visible]
  | short e c escape =>
    have letter : e ≠ 'u' := by
      rintro rfl
      cases escape
    rw [List.cons_append, List.singleton_append, scan.eq_def]
    simp [letter, escape]
  | unit x y z w code hex =>
    rw [scan.eq_def]
    simp [hex]

/-- The scanner takes the pieces up to the closing quote. -/
theorem scan_spelled {pieces : List Piece} {s : List Char} (h : Spelled pieces s)
    (rest : List Char) : scan (s ++ '"' :: rest) = (pieces, .ok rest) := by
  induction h with
  | nil =>
    rw [List.nil_append, scan.eq_def]
    rfl
  | cons first _ ih => rw [List.append_assoc, scan_piece first, ih]

end Text

/-- The string token after an opening quote. -/
theorem ofString_append {pieces : List Text.Piece} {s : List Char}
    (h : Text.Spelled pieces s) (rest : List Char) :
    Token.ofString (s ++ '"' :: rest) =
      (.string ((Text.decode pieces).map String.ofList), rest) := by
  rw [Token.ofString, Text.close, Text.scan_spelled h]

/-! ## Numbers -/

/-- A number does not go on with this text. -/
def Delimits (rest : List Char) : Prop :=
  ∀ c, rest.head? = some c → c.isDigit = false ∧ c ∉ ['.', 'e', 'E']

namespace Numeral

theorem digits_append {ds rest : List Char} (h : Digits ds)
    (stop : ∀ c, rest.head? = some c → c.isDigit = false) :
    digits (ds ++ rest) = .ok (ds, rest) := by
  obtain ⟨taken, left⟩ := Text.span_append h.2 stop
  obtain ⟨c, ds, rfl⟩ := List.exists_cons_of_ne_nil h.1
  rw [digits, taken, left]

theorem Digits.append_ne_cons {ds rest t : List Char} {c : Char} (h : Digits ds)
    (hc : c.isDigit = false) : ds ++ rest ≠ c :: t := by
  obtain ⟨d, ds, rfl⟩ := List.exists_cons_of_ne_nil h.1
  rintro e
  cases e
  rw [h.2 c List.mem_cons_self] at hc
  cases hc

theorem wholePart_append {ds rest : List Char} (h : Whole ds)
    (stop : ∀ c, rest.head? = some c → c.isDigit = false) :
    wholePart (ds ++ rest) = .ok (ds, rest) := by
  have single : ¬(ds.head? = some '0' ∧ 1 < ds.length) := by
    rintro ⟨zero, long⟩
    rw [h.2 zero] at long
    exact absurd long (by decide)
  simp [wholePart, digits_append h.1 stop, single, bind, Except.bind, pure, Except.pure]

theorem fractionPart_append {ds s rest : List Char} (h : FractionSpelled ds s)
    (stop : ∀ c, rest.head? = some c → c.isDigit = false ∧ c ≠ '.') :
    fractionPart (s ++ rest) = .ok (ds, rest) := by
  cases h with
  | none =>
    cases rest with
    | nil => rfl
    | cons c rest =>
      have := (stop c rfl).2
      unfold fractionPart
      split
      · next e => cases e; exact absurd rfl this
      · rfl
  | point digits => exact digits_append digits fun c hc => (stop c hc).1

theorem exponentPart_append {e : Option Int} {s rest : List Char} (h : ExponentSpelled e s)
    (delimits : Delimits rest) : exponentPart (s ++ rest) = .ok (e, rest) := by
  have stop (c) (hc : rest.head? = some c) := (delimits c hc).1
  cases h with
  | none =>
    cases rest with
    | nil => rfl
    | cons c rest =>
      have := (delimits c rfl).2
      simp_all [exponentPart]
  | unsigned isMark digits =>
    rw [List.cons_append, exponentPart, if_pos (by simpa using isMark), digits_append digits stop]
    · rfl
    · exact fun _ => digits.append_ne_cons rfl
    · exact fun _ => digits.append_ne_cons rfl
  | plus isMark digits =>
    rw [List.cons_append, List.cons_append, exponentPart, if_pos (by simpa using isMark),
      digits_append digits stop]
    rfl
  | minus isMark digits =>
    rw [List.cons_append, List.cons_append, exponentPart, if_pos (by simpa using isMark),
      digits_append digits stop]
    rfl

/-- What an exponent, or nothing, begins with does not go on with the digits before it. -/
theorem ExponentSpelled.stop {e : Option Int} {s rest : List Char} (h : ExponentSpelled e s)
    (delimits : Delimits rest) (c : Char) (hc : (s ++ rest).head? = some c) :
    c.isDigit = false ∧ c ≠ '.' := by
  cases h with
  | none =>
    obtain ⟨digit, other⟩ := delimits c hc
    exact ⟨digit, fun point => other (by simp [point])⟩
  | _ isMark =>
    cases hc
    simp only [List.mem_cons, List.not_mem_nil, or_false] at isMark
    rcases isMark with rfl | rfl <;> decide

/-- Neither does what a fraction, or nothing, begins with. -/
theorem FractionSpelled.stop {ds s rest : List Char} (h : FractionSpelled ds s)
    (delimits : ∀ c, rest.head? = some c → c.isDigit = false ∧ c ≠ '.') (c : Char)
    (hc : (s ++ rest).head? = some c) : c.isDigit = false := by
  cases h with
  | none => exact (delimits c hc).1
  | point =>
    cases hc
    rfl

theorem signPart_append {negative : Bool} {sign s : List Char} (h : SignSpelled negative sign)
    (unsigned : ∀ t, s ≠ '-' :: t) : signPart (sign ++ s) = (negative, s) := by
  cases h with
  | none =>
    unfold signPart
    split
    · next t e => exact absurd e (unsigned t)
    · rfl
  | minus => rfl

/-- The scanner takes a numeral off. -/
theorem scan_spelled {n : Numeral} {sign fraction exponent rest : List Char}
    (h : n.Spelled sign fraction exponent) (delimits : Delimits rest) :
    scan (sign ++ (n.whole ++ (fraction ++ (exponent ++ rest)))) = .ok (n, rest) := by
  have stop := h.exponent.stop delimits
  rw [scan, signPart_append h.sign fun t => h.whole.1.append_ne_cons rfl]
  simp only [wholePart_append h.whole (h.fraction.stop stop), fractionPart_append h.fraction stop,
    exponentPart_append h.exponent delimits, bind, Except.bind, pure, Except.pure]

end Numeral

/-! ## Tokens -/

theorem tokens_eq_nil {s : List Char} (h : s.dropWhile Token.isSpace = []) : tokens s = [] := by
  rw [tokens]
  split
  · rfl
  · next e => cases h.symm.trans e

theorem tokens_eq_cons {s rest : List Char} {c : Char}
    (h : s.dropWhile Token.isSpace = c :: rest) :
    tokens s = (Token.next c rest).1 :: tokens (Token.next c rest).2 := by
  rw [tokens]
  split
  · next e => cases h.symm.trans e
  · next e =>
    cases h.symm.trans e
    rfl

theorem tokens_cons {c : Char} (h : Token.isSpace c = false) (rest : List Char) :
    tokens (c :: rest) = (Token.next c rest).1 :: tokens (Token.next c rest).2 :=
  tokens_eq_cons (by simp [h])

theorem isSpace_of_blank {blank : List Char} (h : Blank blank) (c : Char) (hc : c ∈ blank) :
    Token.isSpace c = true := by
  simp only [Token.isSpace, Bool.or_eq_true, beq_iff_eq, or_assoc]
  simpa using h c hc

theorem tokens_blank {blank : List Char} (h : Blank blank) (s : List Char) :
    tokens (blank ++ s) = tokens s := by
  have skipped : (blank ++ s).dropWhile Token.isSpace = s.dropWhile Token.isSpace :=
    List.dropWhile_append_of_pos (isSpace_of_blank h)
  cases hs : s.dropWhile Token.isSpace with
  | nil => rw [tokens_eq_nil hs, tokens_eq_nil (skipped.trans hs)]
  | cons c rest => rw [tokens_eq_cons hs, tokens_eq_cons (skipped.trans hs)]

theorem tokens_punctuation {c : Char} {token : Token} (h : Token.punctuation? c = some token)
    (rest : List Char) : tokens (c :: rest) = token :: tokens rest := by
  have visible : Token.isSpace c = false := by
    unfold Token.punctuation? at h
    split at h <;> first | rfl | cases h
  rw [tokens_cons visible, Token.next, h]

theorem tokens_quote {pieces : List Text.Piece} {s : List Char} (h : Text.Spelled pieces s)
    (rest : List Char) :
    tokens ('"' :: (s ++ ['"']) ++ rest) =
      .string ((Text.decode pieces).map String.ofList) :: tokens rest := by
  rw [List.cons_append, List.append_assoc, tokens_cons rfl]
  have next : Token.next '"' (s ++ (['"'] ++ rest)) = _ := ofString_append h rest
  rw [next]

theorem tokens_string {value : Option String} {s : List Char} (h : StringSpelled value s)
    (rest : List Char) : tokens (s ++ rest) = .string value :: tokens rest := by
  cases h with
  | value spelled denotes =>
    rw [tokens_quote spelled, Text.denotes_iff.1 denotes]
    rfl
  | @unpaired pieces _ spelled nothing =>
    have lost : Text.decode pieces = none :=
      Option.eq_none_iff_forall_ne_some.2 fun chars found =>
        nothing chars (Text.denotes_iff.2 found)
    rw [tokens_quote spelled, lost]
    rfl

/-- What begins a number begins nothing else. -/
theorem apart_of_number {c d : Char} (h : c = '-' ∨ c.isDigit = true)
    (hd : d ≠ '-' ∧ d.isDigit = false) : c ≠ d := by
  rintro rfl
  rcases h with rfl | digit
  · exact hd.1 rfl
  · rw [digit] at hd
    cases hd.2

theorem next_number {c : Char} (h : c = '-' ∨ c.isDigit = true) (rest : List Char) :
    Token.next c rest = Token.ofNumeral (c :: rest) := by
  have apart {d : Char} := apart_of_number (d := d) h
  have unpunctuated : Token.punctuation? c = none := by
    unfold Token.punctuation?
    split <;> first | rfl | exact absurd rfl (apart (by decide))
  rw [Token.next, unpunctuated]
  simp only [if_neg (apart (d := '"') (by decide)), if_neg (apart (d := 'n') (by decide)),
    if_neg (apart (d := 't') (by decide)), if_neg (apart (d := 'f') (by decide)), if_pos h]

/-- A numeral begins with its sign or a digit. -/
theorem Numeral.Spelled.exists_first {n : Numeral} {sign fraction exponent : List Char}
    (h : n.Spelled sign fraction exponent) (rest : List Char) :
    ∃ c more, sign ++ (n.whole ++ rest) = c :: more ∧ (c = '-' ∨ c.isDigit = true) := by
  obtain ⟨negative, whole, _, _⟩ := n
  obtain ⟨signed, ⟨⟨nonempty, digits⟩, -⟩, -, -⟩ := h
  cases signed with
  | none =>
    obtain ⟨d, ds, rfl⟩ := List.exists_cons_of_ne_nil nonempty
    exact ⟨d, ds ++ rest, rfl, .inr (digits d List.mem_cons_self)⟩
  | minus => exact ⟨'-', whole ++ rest, rfl, .inl rfl⟩

theorem tokens_number {n : Numeral} {sign fraction exponent rest : List Char}
    (h : n.Spelled sign fraction exponent) (delimits : Delimits rest) :
    tokens (sign ++ (n.whole ++ (fraction ++ (exponent ++ rest)))) =
      .number n.number? :: tokens rest := by
  have scanned := Numeral.scan_spelled h delimits
  obtain ⟨c, more, e, first⟩ := h.exists_first (fraction ++ (exponent ++ rest))
  rw [e] at scanned ⊢
  have visible : Token.isSpace c = false := by
    have apart {d : Char} := apart_of_number (d := d) first
    simp [Token.isSpace, apart]
  rw [tokens_cons visible, next_number first, Token.ofNumeral, scanned]

/-! ## The machine -/

/-- The machine waits for a value, with these frames open. -/
def Awaits (stack : List Frame) (reading : Reading) : Prop :=
  ∀ token, token ≠ .endArray → step reading token = begun stack token

theorem awaits_value (stack : List Frame) : Awaits stack (.value stack) := fun _ _ => rfl

theorem awaits_item (stack : List Frame) : Awaits (.array [] :: stack) (.item stack) := by
  intro token other
  cases token <;> first | rfl | exact absurd rfl other

theorem Awaits.run_cons {stack : List Frame} {reading : Reading} {token : Token}
    (h : Awaits stack reading) (other : token ≠ .endArray) (ts : List Token) :
    run reading (token :: ts) = run (begun stack token) ts := by
  rw [run, List.foldl_cons, h token other]
  rfl

theorem begun_number (stack : List Frame) (n : Option Number) :
    begun stack (.number n) = .after (.ofNumber? n) stack := by cases n <;> rfl

theorem begun_string (stack : List Frame) (s : Option String) :
    begun stack (.string s) = .after (.ofString? s) stack := by cases s <;> rfl

theorem delimits_nil : Delimits [] := by simp [Delimits]

theorem delimits_cons {c : Char} (digit : c.isDigit = false) (other : c ∉ ['.', 'e', 'E'])
    (rest : List Char) : Delimits (c :: rest) := by
  intro d hd
  cases hd
  exact ⟨digit, other⟩

theorem Delimits.blank_append {blank rest : List Char} (h : Delimits rest) (hb : Blank blank) :
    Delimits (blank ++ rest) := by
  cases blank with
  | nil => exact h
  | cons c blank =>
    have space := hb c List.mem_cons_self
    simp only [List.mem_cons, List.not_mem_nil, or_false] at space
    rcases space with rfl | rfl | rfl | rfl <;> exact delimits_cons (by decide) (by decide) _

theorem delimits_comma (rest : List Char) : Delimits (',' :: rest) :=
  delimits_cons (by decide) (by decide) rest

theorem delimits_endArray (rest : List Char) : Delimits (']' :: rest) :=
  delimits_cons (by decide) (by decide) rest

theorem delimits_endObject (rest : List Char) : Delimits ('\x7d' :: rest) :=
  delimits_cons (by decide) (by decide) rest

theorem run_cons (reading : Reading) (token : Token) (ts : List Token) :
    run reading (token :: ts) = run (step reading token) ts := rfl

theorem tokens_key {key : Option String} {k : List Char} (h : KeySpelled key k)
    (rest : List Char) : tokens (k ++ ':' :: rest) = .string key :: .colon :: tokens rest := by
  obtain ⟨before, spelled, after⟩ := h
  rw [List.append_assoc, List.append_assoc, tokens_blank before, tokens_string spelled,
    tokens_blank after, tokens_punctuation rfl]

mutual

/-- **A value is read wherever one is awaited.** -/
theorem Spelled.run_eq {t : Tree} {s : List Char} : Spelled t s → ∀ {stack : List Frame}
    {reading : Reading} {rest : List Char}, Awaits stack reading → Delimits rest →
    run reading (tokens (s ++ rest)) = run (.after t stack) (tokens rest)
  | .null, stack, _, rest, awaits, _ => by
    have word : Token.next 'n' (['u', 'l', 'l'] ++ rest) = (.null, rest) := rfl
    rw [List.cons_append, tokens_cons rfl, word, awaits.run_cons Token.noConfusion]
    rfl
  | .true, stack, _, rest, awaits, _ => by
    have word : Token.next 't' (['r', 'u', 'e'] ++ rest) = (.bool true, rest) := rfl
    rw [List.cons_append, tokens_cons rfl, word, awaits.run_cons Token.noConfusion]
    rfl
  | .false, stack, _, rest, awaits, _ => by
    have word : Token.next 'f' (['a', 'l', 's', 'e'] ++ rest) = (.bool false, rest) := rfl
    rw [List.cons_append, tokens_cons rfl, word, awaits.run_cons Token.noConfusion]
    rfl
  | .number spelled, stack, _, rest, awaits, delimits => by
    rw [List.append_assoc, List.append_assoc, List.append_assoc,
      tokens_number spelled delimits, awaits.run_cons Token.noConfusion, begun_number]
  | .string spelled, stack, _, rest, awaits, _ => by
    rw [tokens_string spelled, awaits.run_cons Token.noConfusion, begun_string]
  | .noItems blank, stack, _, rest, awaits, _ => by
    rw [List.cons_append, tokens_punctuation rfl, awaits.run_cons Token.noConfusion,
      List.append_assoc, tokens_blank blank, List.singleton_append, tokens_punctuation rfl]
    rfl
  | .array items, stack, _, rest, awaits, _ => by
    rw [List.cons_append, tokens_punctuation rfl, awaits.run_cons Token.noConfusion,
      List.append_assoc]
    exact items.run_eq (awaits_item stack)
  | .noMembers blank, stack, _, rest, awaits, _ => by
    rw [List.cons_append, tokens_punctuation rfl, awaits.run_cons Token.noConfusion,
      List.append_assoc, tokens_blank blank, List.singleton_append, tokens_punctuation rfl]
    rfl
  | .object members, stack, _, rest, awaits, _ => by
    rw [List.cons_append, tokens_punctuation rfl, awaits.run_cons Token.noConfusion,
      List.append_assoc]
    exact members.run_eq
  | .blanks before spelled after, stack, _, rest, awaits, delimits => by
    rw [List.append_assoc, List.append_assoc, tokens_blank before,
      spelled.run_eq awaits (delimits.blank_append after), tokens_blank after]

/-- The items that follow those already read, up to the end of the array. -/
theorem ItemsSpelled.run_eq {items : List Tree} {s : List Char} : ItemsSpelled items s →
    ∀ {earlier : List Tree} {stack : List Frame} {reading : Reading} {rest : List Char},
    Awaits (.array earlier :: stack) reading →
    run reading (tokens (s ++ ']' :: rest)) =
      run (.after (.array (earlier.reverse ++ items) .closed) stack) (tokens rest)
  | .one spelled, earlier, stack, _, rest, awaits => by
    rw [spelled.run_eq awaits (delimits_endArray rest), tokens_punctuation rfl, run_cons, step,
      continued, List.reverse_cons]
  | .cons spelled more, earlier, stack, _, rest, awaits => by
    rw [List.append_assoc, List.cons_append, spelled.run_eq awaits (delimits_comma _),
      tokens_punctuation rfl, run_cons, step, continued, more.run_eq (awaits_value _),
      List.reverse_cons, List.append_assoc, List.singleton_append]

/-- The members that follow those already read, up to the end of the object. -/
theorem MembersSpelled.run_eq {members : List (Option String × Tree)} {s : List Char} :
    MembersSpelled members s →
    ∀ {earlier : List (Option String × Tree)} {stack : List Frame} {rest : List Char},
    run (.key earlier stack) (tokens (s ++ '\x7d' :: rest)) =
      run (.after (.object (earlier.reverse ++ members) .closed) stack) (tokens rest)
  | .one key spelled, earlier, stack, rest => by
    rw [List.append_assoc, List.cons_append, tokens_key key, run_cons, run_cons, step, step,
      spelled.run_eq (awaits_value _) (delimits_endObject rest), tokens_punctuation rfl, run_cons,
      step, continued, List.reverse_cons]
  | .cons key spelled more, earlier, stack, rest => by
    rw [List.append_assoc, List.append_assoc, List.cons_append, tokens_key key, run_cons, run_cons,
      step, step, List.cons_append, spelled.run_eq (awaits_value _) (delimits_comma _),
      tokens_punctuation rfl, run_cons, step, continued, more.run_eq, List.reverse_cons,
      List.append_assoc, List.singleton_append]

end

/-- **A text is read as the tree it spells.** -/
theorem Document.ofText_spelled {t : Tree} {text : String} (h : Spelled t text.toList) :
    Document.ofText text = ⟨t, false⟩ := by
  have whole := h.run_eq (awaits_value []) delimits_nil
  rw [List.append_nil] at whole
  rw [Document.ofText, whole, tokens_eq_nil rfl]
  rfl

end TsqlAlter.Json
