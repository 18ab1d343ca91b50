import ReportQuery.Display.Currency
import ReportQuery.Proofs.Display.Number

/-!
# Signs of amounts

Whether an amount has a minus sign is told from the digits that are shown, and these say whether the
rounded amount is zero. So an amount and its negative are written alike but for the sign, and a
negative amount that rounds to zero has none.

Main statement: `Locale.currency_neg`.
-/

namespace ReportQuery

/-! ## Digits other than zero -/

namespace Text

theorem digitsValue_eq_zero_iff {digits : List Char} (h : digits.all isDigit = true) :
    digitsValue digits = 0 ↔ ∀ c ∈ digits, c = '0' := by
  induction digits with
  | nil => simp [digitsValue]
  | cons c rest ih =>
    rw [List.all_cons, Bool.and_eq_true] at h
    have hbounds := isDigit_iff.1 h.1
    have hpower := power_pos 10 rest.length (by decide)
    have hzero : digitsValue [c] = 0 ↔ c = '0' := by
      rw [← Char.toNat_inj]
      simp [digitsValue, digitValue]
      omega
    rw [← List.singleton_append, digitsValue_append, Nat.add_eq_zero_iff, Nat.mul_eq_zero,
      or_iff_left hpower.ne', hzero, ih h.2, List.singleton_append, List.forall_mem_cons]

end Text

namespace Locale

theorem showsNonzero_iff {text : List Char} :
    showsNonzero text = true ↔ ∃ c ∈ text, Text.isDigit c = true ∧ c ≠ '0' := by
  simp [showsNonzero]

theorem showsNonzero_append (text more : List Char) :
    showsNonzero (text ++ more) = (showsNonzero text || showsNonzero more) :=
  List.any_append

theorem showsNonzero_of_all {digits : List Char} (h : digits.all Text.isDigit = true) :
    showsNonzero digits = true ↔ Text.digitsValue digits ≠ 0 := by
  rw [showsNonzero_iff, ne_eq, Text.digitsValue_eq_zero_iff h]
  have hall := List.all_eq_true.1 h
  constructor
  · rintro ⟨c, hc, -, hne⟩ hzero
    exact hne (hzero c hc)
  · intro hne
    obtain ⟨c, hc, hnonzero⟩ := not_forall₂.1 hne
    exact ⟨c, hc, hall c hc, hnonzero⟩

theorem showsNonzero_text (f : Figure) : showsNonzero f.text = true ↔ f.value ≠ 0 := by
  have hdigits : (f.whole ++ f.fraction).all Text.isDigit = true := by
    rw [List.all_append, f.all_whole, f.all_fraction]
    rfl
  have hsign : showsNonzero (if f.negative then ['-'] else []) = false := by
    cases f.negative <;> rfl
  have hfraction : showsNonzero (if f.fraction = [] then [] else '.' :: f.fraction) =
      showsNonzero f.fraction := by
    split
    · next h => rw [h]
    · rfl
  have hvalue : f.value = 0 ↔ Text.digitsValue (f.whole ++ f.fraction) = 0 := by
    unfold Figure.value pointValue
    split <;> simp
  rw [ne_eq, hvalue, ← ne_eq, ← showsNonzero_of_all hdigits, showsNonzero_append, Figure.text,
    Figure.textWith, showsNonzero_append, showsNonzero_append, hsign, hfraction, Bool.false_or]

variable {l : Locale}

theorem Distinct.showsNonzero_plain (hl : l.Distinct) (text : List Char) :
    showsNonzero (l.plain text) = showsNonzero text := by
  induction text with
  | nil => rfl
  | cons c rest ih =>
    have hrest : l.plain (c :: rest) = l.plain [c] ++ l.plain rest := by
      rw [← plain_append, List.singleton_append]
    have hfirst : showsNonzero (l.plain [c]) = showsNonzero [c] := by
      by_cases hgroup : c = l.group
      · simp [plain, showsNonzero, hgroup, hl.group_not_digit]
      · by_cases hpoint : c = l.point
        · simp [plain, showsNonzero, hpoint, hl.group_ne_point.symm, hl.point_not_digit]
          decide
        · simp [plain, hgroup, hpoint]
    rw [hrest, showsNonzero_append, ih, hfirst, ← showsNonzero_append, List.singleton_append]

theorem Distinct.showsNonzero_number (hl : l.Distinct) {least most : Nat} (h : least ≤ most)
    (d : Decimal) :
    showsNonzero (l.number least most d) = true ↔ roundAway most d.value ≠ 0 := by
  have hshows := hl.shows_figure h d
  rw [← hl.showsNonzero_plain, hshows.reads, showsNonzero_text, hshows.value]

/-! ## Amounts -/

/-- The text is the amount with the currency's symbol, or with its code if it has none, in the order
of the locale. The separator is the locale's, or a blank if there is only a code. -/
structure Arranges (l : Locale) (code : CurrencyCode) (amount text : List Char) (symbol : String)
    (separator : List Char) : Prop where
  symbol_eq : Entries.get? code CurrencyCode.symbols = some symbol ∨
    Entries.get? code CurrencyCode.symbols = none ∧ symbol = code
  separator_eq : separator = if l.symbolSpaced ∨ symbol = code then [noBreakSpace] else []
  separated : symbol = code → separator ≠ []
  text_eq : text = if l.symbolFirst then symbol.toList ++ separator ++ amount
    else amount ++ separator ++ symbol.toList

theorem arranges_withSymbol (l : Locale) (code : CurrencyCode) (amount : List Char) :
    l.Arranges code amount (l.withSymbol code amount) code.symbol (l.symbolSeparator code) := by
  refine ⟨?_, ?_, ?_, rfl⟩
  · unfold CurrencyCode.symbol
    cases Entries.get? code CurrencyCode.symbols <;> simp
  · simp [symbolSeparator]
  · intro h
    simp [symbolSeparator, h]

section Signs

variable {code : CurrencyCode} {decimals : Option Nat} {d : Decimal}

theorem currency_of_nonneg (h : d.negative = false) :
    l.currency code decimals d = l.withSymbol code
      (l.number (decimals.getD code.minorDigits) (decimals.getD code.minorDigits) d) := by
  have habs : d.abs = d := by
    unfold Decimal.abs
    rw [← h]
  unfold currency
  simp [h, habs]

theorem currency_of_negative (h : d.negative = true) :
    l.currency code decimals d =
      (if showsNonzero (l.number (decimals.getD code.minorDigits)
        (decimals.getD code.minorDigits) d.neg) then ['-'] else []) ++
      l.currency code decimals d.neg := by
  have hneg : d.neg.negative = false := by simp [Decimal.neg, h]
  have habs : d.abs = d.neg := by simp [Decimal.abs, Decimal.neg, h]
  rw [currency_of_nonneg hneg]
  unfold currency
  simp only [h, habs, Bool.true_and]
  split <;> rfl

end Signs

/-- A positive amount and its negative differ by a minus sign, unless they round to zero. -/
theorem currency_neg {l : Locale} (hl : l ∈ all) (text : String) (decimals : Option Nat)
    {d : Decimal} (hd : 0 < d.value) :
    let code := CurrencyCode.ofText text
    let digits := decimals.getD code.minorDigits
    (roundAway digits d.value ≠ 0 →
        l.currency code decimals d.neg = '-' :: l.currency code decimals d) ∧
      (roundAway digits d.value = 0 →
        l.currency code decimals d.neg = l.currency code decimals d) ∧
      ∃ symbol separator, l.Arranges code (l.number digits digits d) (l.currency code decimals d)
        symbol separator := by
  intro code digits
  have hsign : d.negative = false := by
    by_contra hnot
    have hvalue := Decimal.value_of_negative (Bool.eq_true_of_not_eq_false hnot)
    have hnonneg : (0 : ℚ) ≤ d.mantissa / 10 ^ d.scale := by positivity
    linarith
  have hneg : d.neg.negative = true := by simp [Decimal.neg, hsign]
  have hdouble : d.neg.neg = d := by simp [Decimal.neg]
  have hshown := (distinct_of_mem hl).showsNonzero_number (Nat.le_refl digits) d
  -- Both amounts have the same digits, and these decide whether the sign shows.
  have hcurrency : l.currency code decimals d.neg =
      (if showsNonzero (l.number digits digits d) then ['-'] else []) ++
        l.currency code decimals d := by
    rw [currency_of_negative hneg, hdouble]
  refine ⟨?_, ?_, code.symbol, l.symbolSeparator code, ?_⟩
  · intro hne
    rw [hcurrency, if_pos (hshown.2 hne), List.singleton_append]
  · intro hzero
    rw [hcurrency, if_neg (fun h => hshown.1 h hzero), List.nil_append]
  · rw [currency_of_nonneg hsign]
    exact l.arranges_withSymbol code _

/-- Five hundredths, of which one fraction digit shows a tenth and none shows nothing. -/
def fiveHundredths : Decimal := ⟨false, 50, 3, by decide, by decide⟩

theorem currency_neg_of_fiveHundredths :
    deDE ∈ all ∧ 0 < fiveHundredths.value ∧
      deDE.currency (.ofText "chf") (some 1) fiveHundredths = "0,1\u00a0CHF".toList ∧
      deDE.currency (.ofText "chf") (some 1) fiveHundredths.neg = "-0,1\u00a0CHF".toList ∧
      deDE.currency (.ofText "chf") (some 0) fiveHundredths.neg =
        deDE.currency (.ofText "chf") (some 0) fiveHundredths := by
  have hl : deDE ∈ all := by decide
  have hpos : 0 < fiveHundredths.value := by
    norm_num [fiveHundredths, Decimal.value, Decimal.signed]
  have htenth : roundAway 1 fiveHundredths.value ≠ 0 := by
    rw [← Decimal.value_round, ne_eq, Decimal.value_eq_zero_iff]
    decide
  have hnothing : roundAway 0 fiveHundredths.value = 0 := by
    rw [← Decimal.value_round, Decimal.value_eq_zero_iff]
    decide
  have htext : deDE.currency (.ofText "chf") (some 1) fiveHundredths = "0,1\u00a0CHF".toList := by
    decide +kernel
  have hnegative := (currency_neg hl "chf" (some 1) hpos).1 htenth
  rw [htext] at hnegative
  exact ⟨hl, hpos, htext, hnegative, (currency_neg hl "chf" (some 0) hpos).2.1 hnothing⟩

end Locale

end ReportQuery
