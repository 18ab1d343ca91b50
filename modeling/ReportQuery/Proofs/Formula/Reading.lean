import ReportQuery.Formula.Parser
import ReportQuery.Proofs.Formula.Lexing

/-!
# Reading and the grammar

The reader of tokens finds every phrase that nothing lengthens, and finds nothing else.

Main statements: `Phrase.phrase?_append`, `phrase?_sound`, `ofText_eq_ok_iff`.
-/

namespace ReportQuery.Formula

/-! ## The reader by rank -/

/-- The formula of a phrase at the start of tokens, and the tokens after it. -/
def phrase? : Rank → List Token → Option (Formula × List Token)
  | .chain .additive, ts => (readSum ts).map fun r => (r.1, r.2.1)
  | .chain .multiplicative, ts => (readProduct ts).map fun r => (r.1, r.2.1)
  | .signed, ts => (readSigned ts).map fun r => (r.1, r.2.1)

/-- The formula of what stands before tokens and of the tail at their start. -/
def tail? : Level → Formula → List Token → Option (Formula × List Token)
  | .additive, left, ts => (readSumTail left ts).map fun r => (r.1, r.2.1)
  | .multiplicative, left, ts => (readProductTail left ts).map fun r => (r.1, r.2.1)

variable {ts rest : List Token} {left formula : Formula}

theorem phrase?_chain (l : Level) (ts : List Token) :
    phrase? (.chain l) ts = (phrase? l.operand ts).bind fun r => tail? l r.1 r.2 := by
  cases l with
  | additive =>
    simp only [phrase?, Level.operand]
    rw [readSum]
    rcases readProduct ts with _ | ⟨left, rest, _⟩
    · rfl
    · simp only [Option.map_some, Option.bind_some, tail?]
      rcases readSumTail left rest with _ | _ <;> rfl
  | multiplicative =>
    simp only [phrase?, Level.operand]
    rw [readProduct]
    rcases readSigned ts with _ | ⟨left, rest, _⟩
    · rfl
    · simp only [Option.map_some, Option.bind_some, tail?]
      rcases readProductTail left rest with _ | _ <;> rfl

theorem tail?_op {op : BinaryOp} {l : Level} (h : op.level = l) (left : Formula)
    (ts : List Token) :
    tail? l left (.op op :: ts) =
      (phrase? l.operand ts).bind fun r => tail? l (.binary op left r.1) r.2 := by
  subst h
  cases op
  case plus | minus =>
    simp only [BinaryOp.level, tail?, Level.operand, phrase?]
    rw [readSumTail]
    rcases readProduct ts with _ | ⟨right, rest, _⟩
    · rfl
    · simp only [Option.map_some, Option.bind_some]
      rcases readSumTail (.binary _ left right) rest with _ | _ <;> rfl
  case times | «over» =>
    simp only [BinaryOp.level, tail?, Level.operand, phrase?]
    rw [readProductTail]
    rcases readSigned ts with _ | ⟨right, rest, _⟩
    · rfl
    · simp only [Option.map_some, Option.bind_some]
      rcases readProductTail (.binary _ left right) rest with _ | _ <;> rfl

theorem tail?_of_level_ne {l : Level} (h : ∀ op rest, ts = .op op :: rest → op.level ≠ l)
    (left : Formula) : tail? l left ts = some (left, ts) := by
  cases l with
  | additive =>
    rw [tail?, readSumTail]
    · rfl
    · rintro rest rfl
      exact h .plus rest rfl rfl
    · rintro rest rfl
      exact h .minus rest rfl rfl
  | multiplicative =>
    rw [tail?, readProductTail]
    · rfl
    · rintro rest rfl
      exact h .times rest rfl rfl
    · rintro rest rfl
      exact h .over rest rfl rfl

theorem phrase?_number (value : Decimal) (ts : List Token) :
    phrase? .signed (.number value :: ts) = some (.literal value, ts) := by
  rw [phrase?, readSigned]
  rfl

theorem phrase?_field (path : String) (ts : List Token) :
    phrase? .signed (.field path :: ts) = some (.field path, ts) := by
  rw [phrase?, readSigned]
  rfl

theorem phrase?_minus (ts : List Token) :
    phrase? .signed (.op .minus :: ts) =
      (phrase? .signed ts).map fun r => (.negation r.1, r.2) := by
  rw [phrase?, readSigned, phrase?]
  rcases readSigned ts with _ | _ <;> rfl

theorem phrase?_opening_eq_some_iff :
    phrase? .signed (.opening :: ts) = some (formula, rest) ↔
      phrase? (.chain .additive) ts = some (formula, .closing :: rest) := by
  simp only [phrase?]
  rw [readSigned.eq_def]
  dsimp only
  rcases readSum ts with _ | ⟨inner, _ | ⟨_ | _ | _ | _ | _, after⟩, _⟩ <;> simp

theorem phrase?_signed_cases (h : phrase? .signed ts = some (formula, rest)) :
    (∃ value, ts = .number value :: rest ∧ formula = .literal value) ∨
    (∃ path, ts = .field path :: rest ∧ formula = .field path) ∨
    (∃ ts' operand, ts = .op .minus :: ts' ∧ phrase? .signed ts' = some (operand, rest) ∧
      formula = .negation operand) ∨
    (∃ ts', ts = .opening :: ts' ∧
      phrase? (.chain .additive) ts' = some (formula, .closing :: rest)) := by
  match ts with
  | .number value :: ts =>
    rw [phrase?_number] at h
    cases h
    exact .inl ⟨value, rfl, rfl⟩
  | .field path :: ts =>
    rw [phrase?_field] at h
    cases h
    exact .inr (.inl ⟨path, rfl, rfl⟩)
  | .op .minus :: ts =>
    rw [phrase?_minus] at h
    obtain ⟨⟨operand, _⟩, hoperand, heq⟩ := Option.map_eq_some_iff.1 h
    cases heq
    exact .inr (.inr (.inl ⟨ts, operand, rfl, hoperand, rfl⟩))
  | .opening :: ts =>
    exact .inr (.inr (.inr ⟨ts, rfl, phrase?_opening_eq_some_iff.1 h⟩))
  | [] | .op .plus :: _ | .op .times :: _ | .op .over :: _ | .closing :: _ =>
    simp [phrase?, readSigned] at h

theorem length_lt_of_phrase? {r : Rank} (h : phrase? r ts = some (formula, rest)) :
    rest.length < ts.length := by
  have hfewer : ∀ read? : Option (Formula × Fewer ts),
      read?.map (fun r => (r.1, r.2.1)) = some (formula, rest) → rest.length < ts.length := by
    intro read? hread
    obtain ⟨⟨_, fewer⟩, -, heq⟩ := Option.map_eq_some_iff.1 hread
    cases heq
    exact fewer.2
  match r with
  | .chain .additive => exact hfewer _ h
  | .chain .multiplicative => exact hfewer _ h
  | .signed => exact hfewer _ h

/-! ## Every phrase is read -/

/-- The tokens begin with the operator. -/
def Begins (ts : List Token) (op : BinaryOp) : Prop := ts.head? = some (.op op)

theorem Tail.operand_ends {l : Level} (h : (Rank.chain l).Ends (Begins ts)) (t : Tail l) :
    l.operand.Ends (Begins (t.tokens ++ ts)) := by
  cases t with
  | done => exact h.operand
  | more _ op hop _ _ _ =>
    refine Level.operand_ends fun op' hop' => ?_
    cases hop'
    exact hop

mutual

theorem Phrase.phrase?_append {r : Rank} {ts : List Token} (h : r.Ends (Begins ts)) :
    (p : Phrase r) → phrase? r (p.tokens ++ ts) = some (p.formula, ts)
  | .number n => by
    rw [Phrase.tokens, Phrase.formula]
    exact phrase?_number n.value ts
  | .field name => by
    rw [Phrase.tokens, Phrase.formula]
    exact phrase?_field _ ts
  | .parens _ inner _ => by
    have hclosing : (Rank.chain .additive).Ends (Begins (.closing :: ts)) :=
      fun _ hop => by cases hop
    rw [Phrase.tokens, Phrase.formula, List.cons_append, phrase?_opening_eq_some_iff,
      List.append_assoc]
    exact inner.phrase?_append hclosing
  | .minus _ operand => by
    rw [Phrase.tokens, Phrase.formula, List.cons_append, phrase?_minus, operand.phrase?_append h]
    rfl
  | .chain first rest => by
    rw [Phrase.tokens, Phrase.formula, phrase?_chain, List.append_assoc,
      first.phrase?_append (rest.operand_ends h)]
    exact rest.tail?_append h first.formula

theorem Tail.tail?_append {l : Level} {ts : List Token} (h : (Rank.chain l).Ends (Begins ts))
    (left : Formula) : (t : Tail l) → tail? l left (t.tokens ++ ts) = some (t.formula left, ts)
  | .done => by
    rw [Tail.tokens, Tail.formula]
    refine tail?_of_level_ne ?_ left
    rintro op rest rfl rfl
    have hend := h op rfl
    exact absurd (hend.1.symm.trans hend.2) (by decide)
  | .more _ op hop _ right rest => by
    rw [Tail.tokens, Tail.formula, List.cons_append, tail?_op hop, List.append_assoc,
      right.phrase?_append (rest.operand_ends h)]
    exact rest.tail?_append h _

end

/-! ## Whatever is read is a phrase -/

def Rank.depth : Rank → Nat
  | chain .additive => 2
  | chain .multiplicative => 1
  | signed => 0

theorem Level.depth_operand_lt (l : Level) : l.operand.depth < (Rank.chain l).depth := by
  cases l <;> decide

mutual

theorem phrase?_sound {r : Rank} {text : List Char} {ts rest : List Token} {formula : Formula}
    (htext : tokens? text = some ts) (h : phrase? r ts = some (formula, rest)) :
    ∃ (b : Blanks) (p : Phrase r) (text' : List Char), text = b.chars ++ (p.text ++ text') ∧
      p.formula = formula ∧ tokens? text' = some rest := by
  match r with
  | .chain l =>
    rw [phrase?_chain] at h
    obtain ⟨⟨left, middle⟩, hfirst, htail⟩ := Option.bind_eq_some_iff.1 h
    -- The first operand is of a lower rank, and the tail has fewer tokens.
    have hless := length_lt_of_phrase? hfirst
    have hdepth := l.depth_operand_lt
    obtain ⟨b, p, text, rfl, rfl, hmiddle⟩ := phrase?_sound htext hfirst
    obtain ⟨t, text, rfl, rfl, hrest⟩ := tail?_sound hmiddle htail
    exact ⟨b, .chain p t, text, by rw [Phrase.text, List.append_assoc], by rw [Phrase.formula],
      hrest⟩
  | .signed =>
    rcases phrase?_signed_cases h with ⟨value, rfl, rfl⟩ | ⟨path, rfl, rfl⟩ |
      ⟨ts', operand, rfl, hoperand, rfl⟩ | ⟨ts', rfl, hinner⟩
    · obtain ⟨b, _, text, rfl, hword, hrest⟩ := exists_word_of_tokens? htext
      cases hword with
      | number n => exact ⟨b, .number n, text, by rw [Phrase.text], by rw [Phrase.formula], hrest⟩
    · obtain ⟨b, _, text, rfl, hword, hrest⟩ := exists_word_of_tokens? htext
      cases hword with
      | field name =>
        exact ⟨b, .field name, text, by rw [Phrase.text], by rw [Phrase.formula], hrest⟩
    · obtain ⟨b, _, text, rfl, ⟨⟩, hafter⟩ := exists_word_of_tokens? htext
      obtain ⟨blanks, p, text, rfl, rfl, hrest⟩ := phrase?_sound hafter hoperand
      refine ⟨b, .minus blanks p, text, ?_, by rw [Phrase.formula], hrest⟩
      simp [Phrase.text, BinaryOp.symbol]
    · obtain ⟨b, _, text, rfl, ⟨⟩, hafter⟩ := exists_word_of_tokens? htext
      obtain ⟨before, p, text, rfl, rfl, hclosing⟩ := phrase?_sound hafter hinner
      obtain ⟨after, _, text, rfl, ⟨⟩, hrest⟩ := exists_word_of_tokens? hclosing
      refine ⟨b, .parens before p after, text, ?_, by rw [Phrase.formula], hrest⟩
      simp [Phrase.text]
termination_by (ts.length, r.depth)

theorem tail?_sound {l : Level} {text : List Char} {ts rest : List Token} {left formula : Formula}
    (htext : tokens? text = some ts) (h : tail? l left ts = some (formula, rest)) :
    ∃ (t : Tail l) (text' : List Char), text = t.text ++ text' ∧ t.formula left = formula ∧
      tokens? text' = some rest := by
  by_cases hop : ∃ op ts', ts = .op op :: ts' ∧ op.level = l
  · obtain ⟨op, ts', hts, hlevel⟩ := hop
    have hshorter : ts'.length < ts.length := by simp [hts]
    rw [hts] at htext
    rw [hts, tail?_op hlevel] at h
    obtain ⟨⟨right, middle⟩, hright, htail⟩ := Option.bind_eq_some_iff.1 h
    have hless := length_lt_of_phrase? hright
    obtain ⟨before, _, text, rfl, ⟨⟩, hafter⟩ := exists_word_of_tokens? htext
    obtain ⟨after, p, text, rfl, rfl, hmiddle⟩ := phrase?_sound hafter hright
    obtain ⟨t, text, rfl, rfl, hrest⟩ := tail?_sound hmiddle htail
    refine ⟨.more before op hlevel after p t, text, ?_, by rw [Tail.formula], hrest⟩
    simp [Tail.text]
  · have hlevel : ∀ op ts', ts = .op op :: ts' → op.level ≠ l :=
      fun op ts' hts hlevel => hop ⟨op, ts', hts, hlevel⟩
    rw [tail?_of_level_ne hlevel] at h
    cases h
    exact ⟨.done, text, by rw [Tail.text]; rfl, by rw [Tail.formula], htext⟩
termination_by (ts.length, 0)

end

theorem read?_eq_some_iff {text : List Char} :
    read? text = some formula ↔ ∃ d : Derivation, d.text = text ∧ d.formula = formula := by
  have hread : read? text = some formula ↔
      ∃ ts, tokens? text = some ts ∧ phrase? (.chain .additive) ts = some (formula, []) := by
    simp only [read?, phrase?, Option.bind_eq_bind, Option.bind_eq_some_iff]
    refine exists_congr fun ts => and_congr_right fun _ => ?_
    rcases readSum ts with _ | ⟨_, _ | _, _⟩ <;> simp
  rw [hread]
  constructor
  · rintro ⟨ts, htext, h⟩
    obtain ⟨before, p, text, rfl, rfl, hrest⟩ := phrase?_sound htext h
    obtain ⟨after, rfl⟩ := exists_blanks_of_tokens? hrest
    exact ⟨⟨before, p, after⟩, List.append_assoc _ _ _, rfl⟩
  · rintro ⟨d, rfl, rfl⟩
    have hend : (Rank.chain .additive).Ends (Begins []) := fun _ hop => by cases hop
    have h := d.body.phrase?_append hend
    rw [List.append_nil] at h
    exact ⟨_, d.tokens?_text, h⟩

theorem ofText_eq_ok_iff {text : String} :
    ofText text = .ok formula ↔ ∃ d : Derivation, d.text = text.toList ∧ d.formula = formula := by
  rw [← read?_eq_some_iff]
  unfold ofText
  split
  · next hread => simp [hread]
  · next hread => simp [hread]

end ReportQuery.Formula
