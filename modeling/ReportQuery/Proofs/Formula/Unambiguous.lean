import ReportQuery.Proofs.Formula.Reading

/-!
# One derivation for each formula

A text is spelled by one tree at most: blanks, digits and names end where their characters do, and
a chain ends where no operator of its level comes next.

Main statements: `Phrase.unique`, `ofText_follows_grammar`.
-/

namespace ReportQuery.Formula

open Text (Apart apart_cons apart_nil)

/-! ## Words -/

theorem Blanks.unique {b b' : Blanks} {x x' : List Char} (hx : Apart isBlank x)
    (hx' : Apart isBlank x') (h : b.chars ++ x = b'.chars ++ x') : b = b' ∧ x = x' := by
  obtain ⟨hchars, hrest⟩ := Text.run_unique b.all_blank b'.all_blank hx hx' h
  exact ⟨Blanks.ext hchars, hrest⟩

theorem Digits.unique {d d' : Digits} {x x' : List Char} (hx : Apart Text.isDigit x)
    (hx' : Apart Text.isDigit x') (h : d.chars ++ x = d'.chars ++ x') : d = d' ∧ x = x' := by
  obtain ⟨hchars, hrest⟩ := Text.run_unique d.all_digit d'.all_digit hx hx' h
  exact ⟨Digits.ext hchars, hrest⟩

theorem Name.unique {n n' : Name} {x x' : List Char} (hx : Apart isNameChar x)
    (hx' : Apart isNameChar x') (h : n.chars ++ x = n'.chars ++ x') : n = n' ∧ x = x' := by
  obtain ⟨hchars, hrest⟩ := Text.run_unique n.all_nameChar n'.all_nameChar hx hx' h
  exact ⟨Name.ext hchars, hrest⟩

theorem fraction_unique {f f' : Option Digits} {x x' : List Char} (hx : Apart isNameChar x)
    (hx' : Apart isNameChar x') (h : fractionText f ++ x = fractionText f' ++ x') :
    f = f' ∧ x = x' := by
  have hdigit {y : List Char} (hy : Apart isNameChar y) : Apart Text.isDigit y :=
    hy.mono fun _ => isNameChar_of_isDigit
  match f, f' with
  | none, none => exact ⟨rfl, h⟩
  | some d, some d' =>
    rw [fractionText, fractionText, List.cons_append, List.cons_append, List.cons.injEq] at h
    obtain ⟨rfl, hrest⟩ := Digits.unique (hdigit hx) (hdigit hx') h.2
    exact ⟨rfl, hrest⟩
  | none, some d' =>
    rw [show x = '.' :: (d'.chars ++ x') from h] at hx
    exact absurd (apart_cons.1 hx) (by decide)
  | some d, none =>
    rw [show x' = '.' :: (d.chars ++ x) from h.symm] at hx'
    exact absurd (apart_cons.1 hx') (by decide)

theorem Numeral.unique {n n' : Numeral} {x x' : List Char} (hx : Apart isNameChar x)
    (hx' : Apart isNameChar x') (h : n.text ++ x = n'.text ++ x') : n = n' ∧ x = x' := by
  obtain ⟨whole, f, value, hread⟩ := n
  obtain ⟨whole', f', value', hread'⟩ := n'
  rw [text, text, List.append_assoc, List.append_assoc] at h
  obtain ⟨rfl, h⟩ := Digits.unique (apart_fractionText hx) (apart_fractionText hx') h
  obtain ⟨rfl, rfl⟩ := fraction_unique hx hx' h
  obtain rfl := Option.some.inj (hread.symm.trans hread')
  exact ⟨rfl, rfl⟩

theorem Numeral.text_append_ne (n : Numeral) {c : Char} (hc : Text.isDigit c = false)
    (x rest : List Char) : n.text ++ x ≠ c :: rest := by
  obtain ⟨d, ds, htext, hd⟩ := n.text_eq_cons
  intro h
  rw [htext, List.cons_append, List.cons.injEq] at h
  exact absurd (h.1 ▸ hd) (by simp [hc])

theorem symbol_injective {op op' : BinaryOp} (h : op.symbol = op'.symbol) : op = op' := by
  cases op <;> cases op' <;> first | rfl | exact absurd h (by decide)

/-! ## Where a phrase ends -/

/-- The text goes on with the operator, perhaps after blanks. -/
def Follows (text : List Char) (op : BinaryOp) : Prop :=
  ∃ (b : Blanks) (rest : List Char), text = b.chars ++ op.symbol :: rest

/-- What follows a phrase does not lengthen it. -/
structure Rank.Closed (r : Rank) (text : List Char) : Prop where
  apart : Apart isNameChar text
  ends : r.Ends (Follows text)

theorem eq_of_follows {b : Blanks} {c : Char} {rest : List Char} {op : BinaryOp}
    (hc : isBlank c = false) (h : Follows (b.chars ++ c :: rest) op) : op.symbol = c := by
  obtain ⟨b', rest', h⟩ := h
  have hcut := (Blanks.unique (apart_cons.2 hc) (apart_cons.2 (isBlank_symbol op)) h).2
  exact (List.cons.inj hcut).1.symm

theorem Tail.operand_closed {l : Level} {x : List Char} (h : (Rank.chain l).Closed x) (t : Tail l) :
    l.operand.Closed (t.text ++ x) where
  apart := t.apart_text.append h.apart
  ends := by
    cases t with
    | done => exact h.ends.operand
    | more before op hop after right rest =>
      refine Level.operand_ends fun op' hfollows => ?_
      rw [text, List.append_assoc, List.cons_append] at hfollows
      rw [symbol_injective (eq_of_follows (isBlank_symbol op) hfollows)]
      exact hop

theorem closed_before_parenthesis (b : Blanks) (x : List Char) :
    (Rank.chain .additive).Closed (b.chars ++ ')' :: x) where
  apart := b.apart_nameChar.append (apart_cons.2 (by decide))
  ends := fun op hfollows => by
    have hsymbol := eq_of_follows (by decide) hfollows
    cases op <;> exact absurd hsymbol (by decide)

theorem closed_at_end (b : Blanks) : (Rank.chain .additive).Closed b.chars where
  apart := b.apart_nameChar
  ends := fun op hfollows => by
    obtain ⟨b', rest, h⟩ := hfollows
    have hmem : op.symbol ∈ b.chars := by rw [h]; simp
    exact absurd (List.all_eq_true.1 b.all_blank _ hmem) (by simp [isBlank_symbol])

theorem Phrase.apart_blank {r : Rank} (x : List Char) (p : Phrase r) :
    Apart isBlank (p.text ++ x) := by
  cases p with
  | number n =>
    obtain ⟨c, rest, htext, hdigit⟩ := n.text_eq_cons
    rw [Phrase.text, htext]
    exact apart_cons.2 (isBlank_of_isDigit hdigit)
  | field name =>
    rw [Phrase.text]
    exact apart_cons.2 (by decide)
  | parens _ _ _ =>
    rw [Phrase.text]
    exact apart_cons.2 (by decide)
  | minus _ _ =>
    rw [Phrase.text]
    exact apart_cons.2 (by decide)
  | chain first rest =>
    rw [Phrase.text, List.append_assoc]
    exact first.apart_blank _

/-! ## Phrases -/

mutual

theorem Phrase.unique {r : Rank} {x x' : List Char} (hx : r.Closed x) (hx' : r.Closed x') :
    (p p' : Phrase r) → p.text ++ x = p'.text ++ x' → p = p' ∧ x = x'
  | .number n, .number n', h => by
    rw [Phrase.text, Phrase.text] at h
    obtain ⟨rfl, hrest⟩ := Numeral.unique hx.apart hx'.apart h
    exact ⟨rfl, hrest⟩
  | .field name, .field name', h => by
    rw [Phrase.text, Phrase.text, List.cons_append, List.cons_append, List.cons.injEq] at h
    obtain ⟨rfl, hrest⟩ := Name.unique hx.apart hx'.apart h.2
    exact ⟨rfl, hrest⟩
  | .parens before inner after, .parens before' inner' after', h => by
    simp only [Phrase.text, List.cons_append, List.append_assoc, List.cons.injEq, true_and,
      List.nil_append] at h
    have hclosing : ∀ y, Apart isBlank (')' :: y) := fun _ => apart_cons.2 (by decide)
    obtain ⟨rfl, hinner⟩ := Blanks.unique (inner.apart_blank _) (inner'.apart_blank _) h
    obtain ⟨rfl, hafter⟩ := inner.unique (closed_before_parenthesis after x)
      (closed_before_parenthesis after' x') inner' hinner
    obtain ⟨rfl, hrest⟩ := Blanks.unique (hclosing x) (hclosing x') hafter
    exact ⟨rfl, (List.cons.inj hrest).2⟩
  | .minus blanks operand, .minus blanks' operand', h => by
    simp only [Phrase.text, List.cons_append, List.append_assoc, List.cons.injEq, true_and] at h
    obtain ⟨rfl, hoperand⟩ := Blanks.unique (operand.apart_blank _) (operand'.apart_blank _) h
    obtain ⟨rfl, hrest⟩ := operand.unique hx hx' operand' hoperand
    exact ⟨rfl, hrest⟩
  | .chain first rest, .chain first' rest', h => by
    rw [Phrase.text, Phrase.text, List.append_assoc, List.append_assoc] at h
    obtain ⟨rfl, htail⟩ :=
      first.unique (rest.operand_closed hx) (rest'.operand_closed hx') first' h
    obtain ⟨rfl, hrest⟩ := rest.unique hx hx' rest' htail
    exact ⟨rfl, hrest⟩
  -- The first character tells the other operands apart.
  | .number n, .field _, h | .number n, .parens _ _ _, h | .number n, .minus _ _, h => by
    simp only [Phrase.text, List.cons_append] at h
    exact absurd h (n.text_append_ne (by decide) _ _)
  | .field _, .number n, h | .parens _ _ _, .number n, h | .minus _ _, .number n, h => by
    simp only [Phrase.text, List.cons_append] at h
    exact absurd h.symm (n.text_append_ne (by decide) _ _)
  | .field _, .parens _ _ _, h | .field _, .minus _ _, h | .parens _ _ _, .field _, h
  | .parens _ _ _, .minus _ _, h | .minus _ _, .field _, h | .minus _ _, .parens _ _ _, h => by
    simp [Phrase.text] at h

theorem Tail.unique {l : Level} {x x' : List Char} (hx : (Rank.chain l).Closed x)
    (hx' : (Rank.chain l).Closed x') :
    (t t' : Tail l) → t.text ++ x = t'.text ++ x' → t = t' ∧ x = x'
  | .done, .done, h => by
    simp only [Tail.text, List.nil_append] at h
    exact ⟨rfl, h⟩
  | .more before op hop after right rest, .more before' op' hop' after' right' rest', h => by
    simp only [Tail.text, List.cons_append, List.append_assoc] at h
    have hsymbol : ∀ o y, Apart isBlank (BinaryOp.symbol o :: y) :=
      fun o _ => apart_cons.2 (isBlank_symbol o)
    obtain ⟨rfl, hop⟩ := Blanks.unique (hsymbol op _) (hsymbol op' _) h
    rw [List.cons.injEq] at hop
    obtain rfl := symbol_injective hop.1
    obtain ⟨rfl, hright⟩ := Blanks.unique (right.apart_blank _) (right'.apart_blank _) hop.2
    obtain ⟨rfl, hrest⟩ :=
      right.unique (rest.operand_closed hx) (rest'.operand_closed hx') right' hright
    obtain ⟨rfl, hx⟩ := rest.unique hx hx' rest' hrest
    exact ⟨rfl, hx⟩
  | .done, .more before op hop after right rest, h => by
    simp only [Tail.text, List.nil_append, List.cons_append, List.append_assoc] at h
    have hend := hx.ends op ⟨before, _, h⟩
    exact absurd (hend.1.symm.trans (hop.trans hend.2)) (by decide)
  | .more before op hop after right rest, .done, h => by
    simp only [Tail.text, List.nil_append, List.cons_append, List.append_assoc] at h
    have hend := hx'.ends op ⟨before, _, h.symm⟩
    exact absurd (hend.1.symm.trans (hop.trans hend.2)) (by decide)

end

theorem Derivation.text_injective {d d' : Derivation} (h : d.text = d'.text) : d = d' := by
  obtain ⟨before, body, after⟩ := d
  obtain ⟨before', body', after'⟩ := d'
  simp only [text, List.append_assoc] at h
  obtain ⟨rfl, hbody⟩ := Blanks.unique (body.apart_blank _) (body'.apart_blank _) h
  obtain ⟨rfl, hafter⟩ := body.unique (closed_at_end after) (closed_at_end after') body' hbody
  obtain rfl := Blanks.ext hafter
  rfl

/-! ## Reading a text -/

/-- A text that the grammar derives has one derivation, and is read as its formula; every other text
is malformed. -/
theorem ofText_follows_grammar (text : String) :
    (∃ d : Derivation, d.text = text.toList ∧ (∀ d' : Derivation, d'.text = text.toList → d' = d) ∧
      ofText text = .ok d.formula ∧ (ofText text).map toExpr = .ok d.expr) ∨
    ((∀ d : Derivation, d.text ≠ text.toList) ∧
      ∃ position problem, ofText text = .error (.malformed position problem)) := by
  cases hread : read? text.toList with
  | some formula =>
    left
    obtain ⟨d, htext, rfl⟩ := read?_eq_some_iff.1 hread
    have hok : ofText text = .ok d.formula := ofText_eq_ok_iff.2 ⟨d, htext, rfl⟩
    refine ⟨d, htext, fun d' htext' => Derivation.text_injective (htext'.trans htext.symm), hok, ?_⟩
    rw [hok, ← d.toExpr_formula]
    rfl
  | none =>
    right
    refine ⟨fun d htext => ?_, ?_⟩
    · rw [read?_eq_some_iff.2 ⟨d, htext, rfl⟩] at hread
      cases hread
    · rw [ofText, hread]
      exact ⟨_, _, rfl⟩

end ReportQuery.Formula
