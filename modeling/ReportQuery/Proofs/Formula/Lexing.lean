import ReportQuery.Proofs.Formula.Grammar
import ReportQuery.Proofs.Text.Runs

/-!
# Spelling and tokens

A phrase is cut into its own tokens wherever no letter, digit, underscore or point follows it, and
tokens come from nowhere but the words that spell them.

Main statements: `Phrase.tokens?_append`, `tokens?_eq_some_cons`.
-/

namespace ReportQuery.Formula

open Text (Apart apart_cons apart_nil)

/-! ## Characters -/

theorem isNameChar_of_isDigit {c : Char} (h : Text.isDigit c = true) : isNameChar c = true := by
  simp [isNameChar, h]

theorem isNameChar_of_isBlank {c : Char} (h : isBlank c = true) : isNameChar c = false := by
  simp only [isBlank, Bool.or_eq_true, decide_eq_true_eq, or_assoc] at h
  rcases h with rfl | rfl | rfl | rfl <;> decide

theorem isBlank_of_isDigit {c : Char} (h : Text.isDigit c = true) : isBlank c = false := by
  cases hb : isBlank c
  · rfl
  · exact absurd (isNameChar_of_isDigit h) (by simp [isNameChar_of_isBlank hb])

theorem isNameChar_symbol (op : BinaryOp) : isNameChar op.symbol = false := by
  cases op <;> decide

theorem isBlank_symbol (op : BinaryOp) : isBlank op.symbol = false := by
  cases op <;> decide

theorem Blanks.apart_nameChar (b : Blanks) : Apart isNameChar b.chars := by
  intro c h
  exact isNameChar_of_isBlank (List.all_eq_true.1 b.all_blank c (List.mem_of_mem_head? h))

/-! ## Numbers -/

theorem Digits.text_eq_cons (d : Digits) :
    ∃ c rest, d.chars = c :: rest ∧ Text.isDigit c = true := by
  obtain ⟨c, rest, h⟩ := List.exists_cons_of_ne_nil d.ne_nil
  exact ⟨c, rest, h, List.all_eq_true.1 d.all_digit c (by rw [h]; exact List.mem_cons_self)⟩

theorem apart_fractionText {fraction? : Option Digits} {rest : List Char}
    (h : Apart isNameChar rest) : Apart Text.isDigit (fractionText fraction? ++ rest) := by
  cases fraction? with
  | none => exact h.mono fun _ => isNameChar_of_isDigit
  | some digits => exact apart_cons.2 (by decide)

theorem numeral_append (whole : Digits) (fraction? : Option Digits) {rest : List Char}
    (h : Apart isNameChar rest) :
    numeral (whole.chars ++ fractionText fraction? ++ rest) =
      whole.chars ++ fractionText fraction? := by
  unfold numeral
  rw [List.append_assoc, Text.takeWhile_append whole.all_digit (apart_fractionText h),
    Text.dropWhile_append whole.all_digit (apart_fractionText h)]
  cases fraction? with
  | none =>
    rw [fractionText, List.nil_append, List.append_nil]
    split
    · exact absurd (apart_cons.1 h) (by decide)
    · rfl
  | some digits =>
    have htake : (digits.chars ++ rest).takeWhile Text.isDigit = digits.chars :=
      Text.takeWhile_append digits.all_digit (h.mono fun _ => isNameChar_of_isDigit)
    simp only [fractionText, List.cons_append, htake, digits.ne_nil, if_false]

theorem exists_numeral_eq {c : Char} (rest : List Char) (h : Text.isDigit c = true) :
    ∃ (whole : Digits) (fraction? : Option Digits),
      numeral (c :: rest) = whole.chars ++ fractionText fraction? ∧
        numeral (c :: rest) <+: c :: rest := by
  have hne : (c :: rest).takeWhile Text.isDigit ≠ [] := by
    rw [List.takeWhile_cons_of_pos h]
    exact List.cons_ne_nil _ _
  let whole : Digits := ⟨_, hne, List.all_takeWhile⟩
  have hcut : whole.chars ++ (c :: rest).dropWhile Text.isDigit = c :: rest :=
    List.takeWhile_append_dropWhile
  unfold numeral
  dsimp only
  split
  · next after hafter =>
    split
    · exact ⟨whole, none, (List.append_nil _).symm, List.takeWhile_prefix _⟩
    · next hfraction =>
      refine ⟨whole, some ⟨_, hfraction, List.all_takeWhile⟩, rfl, ?_⟩
      have hprefix : whole.chars ++ '.' :: after.takeWhile Text.isDigit <+:
          whole.chars ++ '.' :: after :=
        (List.prefix_append_right_inj _).2
          ((List.prefix_cons_inj '.').2 (List.takeWhile_prefix _))
      rwa [← hafter, hcut] at hprefix
  · exact ⟨whole, none, (List.append_nil _).symm, List.takeWhile_prefix _⟩

theorem Numeral.text_eq_cons (n : Numeral) :
    ∃ c rest, n.text = c :: rest ∧ Text.isDigit c = true := by
  obtain ⟨c, rest, h, hdigit⟩ := n.whole.text_eq_cons
  exact ⟨c, rest ++ fractionText n.fraction?, by rw [text, h]; rfl, hdigit⟩

/-! ## From words to tokens -/

theorem tokens?_blanks (b : Blanks) (rest : List Char) :
    tokens? (b.chars ++ rest) = tokens? rest := by
  obtain ⟨chars, hall⟩ := b
  induction chars with
  | nil => rfl
  | cons c chars ih =>
    rw [List.all_cons, Bool.and_eq_true] at hall
    rw [List.cons_append, tokens?, if_pos hall.1]
    exact ih hall.2

theorem tokens?_numeral (n : Numeral) {rest : List Char} (h : Apart isNameChar rest) :
    tokens? (n.text ++ rest) = (tokens? rest).map (.number n.value :: ·) := by
  obtain ⟨c, cs, hcons, hdigit⟩ := n.text_eq_cons
  have hnumeral : numeral (c :: (cs ++ rest)) = n.text := by
    rw [← List.cons_append, ← hcons]
    exact numeral_append n.whole n.fraction? h
  have hvalue : Decimal.ofText? n.text = some n.value := n.ofText?_eq
  have hrest : (c :: (cs ++ rest)).drop n.text.length = rest := by
    rw [← List.cons_append, ← hcons, List.drop_left]
  rw [hcons, List.cons_append, tokens?, if_neg (by simp [isBlank_of_isDigit hdigit]), if_pos hdigit]
  simp only [hnumeral, hvalue, hrest]
  cases tokens? rest <;> rfl

theorem tokens?_name (name : Name) {rest : List Char} (h : Apart isNameChar rest) :
    tokens? ('$' :: (name.chars ++ rest)) =
      (tokens? rest).map (.field (String.ofList name.chars) :: ·) := by
  rw [tokens?, if_neg (by decide), if_neg (by decide), if_pos rfl]
  simp only [Text.takeWhile_append name.all_nameChar h, Text.dropWhile_append name.all_nameChar h,
    name.ne_nil, if_false]

theorem tokens?_symbol {c : Char} {t : Token} (h : symbol? c = some t)
    (hc : isBlank c = false ∧ Text.isDigit c = false ∧ c ≠ '$') (rest : List Char) :
    tokens? (c :: rest) = (tokens? rest).map (t :: ·) := by
  rw [tokens?, if_neg (by simp [hc.1]), if_neg (by simp [hc.2.1]), if_neg hc.2.2, h]
  cases tokens? rest <;> rfl

/-- A token and the word that spells it. -/
inductive Token.Spelled : Token → List Char → Prop
  | number (n : Numeral) : Spelled (.number n.value) n.text
  | field (name : Name) : Spelled (.field (String.ofList name.chars)) ('$' :: name.chars)
  | op (op : BinaryOp) : Spelled (.op op) [op.symbol]
  | opening : Spelled .opening ['(']
  | closing : Spelled .closing [')']

theorem tokens?_append_of_spelled {t : Token} {word rest : List Char} (h : t.Spelled word)
    (hrest : Apart isNameChar rest) : tokens? (word ++ rest) = (tokens? rest).map (t :: ·) := by
  cases h with
  | number n => exact tokens?_numeral n hrest
  | field name => exact tokens?_name name hrest
  | op op => cases op <;> exact tokens?_symbol rfl (by decide) rest
  | opening => exact tokens?_symbol rfl (by decide) rest
  | closing => exact tokens?_symbol rfl (by decide) rest

theorem spelled_of_symbol? {c : Char} {t : Token} (h : symbol? c = some t) : t.Spelled [c] := by
  unfold symbol? at h
  split at h
  · next hc => cases h; exact hc ▸ .op .plus
  split at h
  · next hc => cases h; exact hc ▸ .op .minus
  split at h
  · next hc => cases h; exact hc ▸ .op .times
  split at h
  · next hc => cases h; exact hc ▸ .op .over
  split at h
  · next hc => cases h; exact hc ▸ .opening
  split at h
  · next hc => cases h; exact hc ▸ .closing
  · cases h

/-! ## Tokens of a phrase -/

theorem Tail.apart_text {l : Level} (t : Tail l) : Apart isNameChar t.text := by
  cases t with
  | done => exact apart_nil
  | more before op _ _ _ _ =>
    rw [text]
    exact before.apart_nameChar.append (apart_cons.2 (isNameChar_symbol op))

mutual

theorem Phrase.tokens?_append {r : Rank} {rest : List Char} (h : Apart isNameChar rest) :
    (p : Phrase r) → tokens? (p.text ++ rest) = (tokens? rest).map (p.tokens ++ ·)
  | .number n => by
    rw [Phrase.text, Phrase.tokens]
    exact tokens?_append_of_spelled (.number n) h
  | .field name => by
    rw [Phrase.text, Phrase.tokens]
    exact tokens?_append_of_spelled (.field name) h
  | .parens before inner after => by
    have hclosing : Apart isNameChar (')' :: rest) := apart_cons.2 (by decide)
    have hinner := inner.tokens?_append (after.apart_nameChar.append hclosing)
    simp only [Phrase.text, Phrase.tokens, List.cons_append, List.append_assoc, List.nil_append]
    rw [tokens?_symbol rfl (by decide), tokens?_blanks, hinner, tokens?_blanks,
      tokens?_symbol rfl (by decide)]
    simp [Function.comp_def]
  | .minus blanks operand => by
    simp only [Phrase.text, Phrase.tokens, List.cons_append, List.append_assoc]
    rw [tokens?_symbol rfl (by decide), tokens?_blanks, operand.tokens?_append h]
    simp [Function.comp_def]
  | .chain first tail => by
    rw [Phrase.text, Phrase.tokens, List.append_assoc,
      first.tokens?_append (tail.apart_text.append h), tail.tokens?_append h]
    simp [Function.comp_def]

theorem Tail.tokens?_append {l : Level} {rest : List Char} (h : Apart isNameChar rest) :
    (t : Tail l) → tokens? (t.text ++ rest) = (tokens? rest).map (t.tokens ++ ·)
  | .done => by simp [Tail.text, Tail.tokens]
  | .more before op _ after right tail => by
    have hop : ∀ text, tokens? (op.symbol :: text) = (tokens? text).map (.op op :: ·) :=
      tokens?_symbol (by cases op <;> rfl) (by cases op <;> decide)
    simp only [Tail.text, Tail.tokens, List.cons_append, List.append_assoc]
    rw [tokens?_blanks, hop, tokens?_blanks, right.tokens?_append (tail.apart_text.append h),
      tail.tokens?_append h]
    simp [Function.comp_def]

end

theorem Derivation.tokens?_text (d : Derivation) : tokens? d.text = some d.body.tokens := by
  have hafter := tokens?_blanks d.after []
  rw [List.append_nil, tokens?] at hafter
  rw [text, List.append_assoc, tokens?_blanks, d.body.tokens?_append d.after.apart_nameChar, hafter,
    Option.map_some, List.append_nil]

/-! ## From tokens to words -/

theorem exists_blanks (text : List Char) :
    ∃ (b : Blanks) (rest : List Char), text = b.chars ++ rest ∧ Apart isBlank rest := by
  refine ⟨⟨text.takeWhile isBlank, List.all_takeWhile⟩, text.dropWhile isBlank,
    List.takeWhile_append_dropWhile.symm, ?_⟩
  intro c hc
  simpa [Option.mem_def.1 hc] using List.head?_dropWhile_not isBlank text

theorem exists_word {c : Char} {rest : List Char} {ts : List Token} (hc : isBlank c = false)
    (h : tokens? (c :: rest) = some ts) :
    ∃ t ts' word rest', ts = t :: ts' ∧ c :: rest = word ++ rest' ∧ t.Spelled word ∧
      tokens? rest' = some ts' := by
  rw [tokens?, if_neg (by simp [hc])] at h
  split at h
  · next hdigit =>
    obtain ⟨whole, fraction?, hnumeral, hprefix⟩ := exists_numeral_eq rest hdigit
    simp only [Option.bind_eq_bind, Option.bind_eq_some_iff, Option.pure_def,
      Option.some.injEq] at h
    obtain ⟨value, hvalue, ts', hrest, rfl⟩ := h
    let n : Numeral := ⟨whole, fraction?, value, hnumeral ▸ hvalue⟩
    refine ⟨.number n.value, ts', n.text, _, rfl, ?_, .number n, hrest⟩
    rw [Numeral.text, ← hnumeral]
    exact (List.prefix_iff_eq_append.1 hprefix).symm
  · split at h
    · next hdollar =>
      subst hdollar
      dsimp only at h
      split at h
      · cases h
      · next hname =>
        obtain ⟨ts', hrest, rfl⟩ := Option.map_eq_some_iff.1 h
        let name : Name := ⟨rest.takeWhile isNameChar, hname, List.all_takeWhile⟩
        refine ⟨_, ts', '$' :: name.chars, _, rfl, ?_, .field name, hrest⟩
        rw [List.cons_append, List.takeWhile_append_dropWhile]
    · simp only [Option.bind_eq_bind, Option.bind_eq_some_iff, Option.pure_def,
        Option.some.injEq] at h
      obtain ⟨t, ht, ts', hrest, rfl⟩ := h
      exact ⟨t, ts', [c], rest, rfl, rfl, spelled_of_symbol? ht, hrest⟩

theorem exists_blanks_of_tokens? {text : List Char} (h : tokens? text = some []) :
    ∃ b : Blanks, text = b.chars := by
  obtain ⟨b, rest, rfl, hrest⟩ := exists_blanks text
  rw [tokens?_blanks] at h
  cases rest with
  | nil => exact ⟨b, List.append_nil _⟩
  | cons c rest =>
    obtain ⟨_, _, _, _, hts, -⟩ := exists_word (apart_cons.1 hrest) h
    cases hts

theorem exists_word_of_tokens? {text : List Char} {t : Token} {ts : List Token}
    (h : tokens? text = some (t :: ts)) :
    ∃ (b : Blanks) (word rest : List Char), text = b.chars ++ (word ++ rest) ∧ t.Spelled word ∧
      tokens? rest = some ts := by
  obtain ⟨b, rest, rfl, hrest⟩ := exists_blanks text
  rw [tokens?_blanks] at h
  cases rest with
  | nil => rw [tokens?] at h; cases h
  | cons c rest =>
    obtain ⟨_, _, word, rest', hts, hword, hspelled, hrest'⟩ := exists_word (apart_cons.1 hrest) h
    cases hts
    exact ⟨b, word, rest', by rw [hword], hspelled, hrest'⟩

end ReportQuery.Formula
