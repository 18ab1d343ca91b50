import ReportQuery.Proofs.Decimal.Value
import ReportQuery.Proofs.Expr.JsonForm
import ReportQuery.Proofs.Formula.Reading
import ReportQuery.Proofs.Number.Nearest
import ReportQuery.Rows

/-!
# Whole numbers in results

A result that is a whole number of 64 bits with a sign is written as that number, whatever fraction
digits it was computed with. One that needs all 64 bits becomes a double near it, also where a
calculation does nothing but copy a field.

Main statement: `Calculation.integers_written`.
-/

namespace ReportQuery

/-- How a whole number of 64 bits is written: as itself, or from `2 ^ 63` on as a double that is at
most 1024 away. -/
inductive Json.WrittenWhole (n : Int) : Json → Prop
  | exact (hfits : Json.Fits64 n) (hsigned : Decimal.FitsSigned64 n) :
    WrittenWhole n (.number (.integer n hfits))
  | near {x : Binary64} (hbeyond : 9223372036854775808 ≤ n)
    (hnear : |x.value - n * Binary64.smallest| ≤ 1024 * Binary64.smallest) :
    WrittenWhole n (.number (.double x))

/-! ## Whole decimals -/

namespace Decimal

theorem strip_of_dvd {mantissa scale : Nat} (h : power 10 scale ∣ mantissa) :
    strip mantissa scale = (mantissa / power 10 scale, 0) := by
  induction scale generalizing mantissa with
  | zero => simp [strip]
  | succ scale ih =>
    obtain ⟨k, rfl⟩ := h
    have hpos : ∀ n, 0 < power 10 n := fun n => power_pos 10 n (by decide)
    have hten : power 10 (scale + 1) * k = power 10 scale * k * 10 := by
      rw [power_succ]
      ring
    rw [hten, strip, Nat.mul_mod_left, if_pos rfl, Nat.mul_div_cancel _ (by decide),
      ih (Nat.dvd_mul_right _ _), ← hten, Nat.mul_div_cancel_left _ (hpos _),
      Nat.mul_div_cancel_left _ (hpos _)]

variable {d : Decimal} {n : Int}

theorem IsWhole.value (h : d.IsWhole n) : d.value = n := by
  rw [Decimal.value, h.scale, h.signed, pow_zero, div_one]

theorem isWhole_normalize (h : d.value = n) : d.normalize.IsWhole n := by
  have hscale := power_pos 10 d.scale (by decide)
  have hpos : (0 : Int) < power 10 d.scale := Int.natCast_pos.2 hscale
  have hsigned : d.signed = n * power 10 d.scale := by
    have hpower : (10 : ℚ) ^ d.scale ≠ 0 := by positivity
    rw [Decimal.value, div_eq_iff hpower, ← cast_power] at h
    exact_mod_cast h
  unfold normalize
  split
  · next hzero =>
    rw [isZero_iff, hsigned, Int.mul_eq_zero] at hzero
    have hn : n = 0 := hzero.resolve_right hpos.ne'
    exact hn ▸ isWhole_zero
  · have hmantissa : d.mantissa = n.natAbs * power 10 d.scale := by
      rw [← natAbs_signed, hsigned, Int.natAbs_mul, Int.natAbs_natCast]
    have hstrip : strip d.mantissa d.scale = (n.natAbs, 0) := by
      rw [hmantissa, strip_of_dvd (Nat.dvd_mul_left _ _), Nat.mul_div_cancel _ hscale]
    constructor
    · simp only [hstrip]
    · apply Int.eq_of_mul_eq_mul_right hpos.ne'
      rw [← hsigned, Decimal.signed, Decimal.signed]
      simp only [hstrip]
      rw [hmantissa]
      split <;> simp

theorem toDouble?_of_whole (hscale : d.scale = 0) (hsign : d.negative = false) :
    d.toDouble? = Binary64.ofNat? d.mantissa := by
  have hzero : Binary64.ofNat? 0 = some (.zero false) := by decide +kernel
  have hone : ∃ x, Binary64.ofNat? 1 = some x ∧
      Binary64.div? (.zero false) x = some (.zero false) :=
    ⟨⟨false, 4503599627370496, 1022, by decide⟩, by decide +kernel, by decide +kernel⟩
  obtain ⟨x, hx, hquotient⟩ := hone
  unfold toDouble?
  simp [hscale, hsign, hzero, hx, hquotient, Nat.mod_one]

theorem IsWhole.toDouble?_near (h : d.IsWhole n) (hlow : 9223372036854775808 ≤ n)
    (hhigh : n < 18446744073709551616) :
    ∃ x, d.toDouble? = some x ∧
      |x.value - n * Binary64.smallest| ≤ 1024 * Binary64.smallest := by
  have hsigned := h.signed
  have hsign : d.negative = false := by
    by_contra hnegative
    rw [Decimal.signed, if_pos (eq_true_of_ne_false hnegative)] at hsigned
    omega
  rw [Decimal.signed, hsign, if_neg Bool.false_ne_true] at hsigned
  have hfirst : power 2 63 ≤ d.mantissa := by
    have hpower : power 2 63 = 9223372036854775808 := rfl
    omega
  have hlast : d.mantissa < power 2 (63 + 1) := by
    have hpower : power 2 (63 + 1) = 18446744073709551616 := rfl
    omega
  -- Of the 64 bits a double keeps 53, so that its unit is 2048.
  have hunit : power 2 (63 + 1022) = 2048 * Binary64.smallest := by
    rw [Binary64.smallest, show 63 + 1022 = 11 + 1074 from rfl, power_add,
      show power 2 11 = 2048 from rfl]
  obtain ⟨x, hx, hpositive, hbelow, habove⟩ := Binary64.ofNat?_near (by decide) hfirst hlast
  rw [hunit] at hbelow habove
  refine ⟨x, by rw [toDouble?_of_whole h.scale hsign, hx], ?_⟩
  have hvalue : x.value = x.magnitude := by
    rw [Binary64.value, hpositive]
    rfl
  rw [hvalue, ← hsigned, abs_le]
  constructor <;> omega

theorem writtenWhole_toJson (h : d.value = n) (hfits : Json.Fits64 n) :
    Json.WrittenWhole n d.toJson := by
  have hwhole := isWhole_normalize h
  by_cases hsigned : FitsSigned64 n
  · have hinteger : d.toJson = .number (.integer n hfits) := by
      unfold toJson
      simp only [hwhole.scale, hwhole.signed, hsigned, and_self, dif_pos]
    exact hinteger ▸ .exact hfits hsigned
  · have hbeyond : 9223372036854775808 ≤ n := by
      unfold FitsSigned64 at hsigned
      have := hfits.1
      omega
    obtain ⟨x, hx, hnear⟩ := hwhole.toDouble?_near hbeyond hfits.2
    have hdouble : d.toJson = .number (.double x) := by
      unfold toJson
      simp only [hwhole.scale, hwhole.signed, hsigned, and_false, dif_neg, not_false_eq_true, hx]
    exact hdouble ▸ .near hbeyond hnear

end Decimal

/-! ## Copied fields -/

namespace Calculation

/-- The calculation is a field and nothing else: by its formula, which may have blanks and
parentheses around the name, or by its expression if it has no formula. -/
inductive Copies (path : String) : Calculation → Prop
  | formula {text : String} (expression : Option Json) (d : Formula.Derivation)
    (htext : d.text = text.toList) (hfield : d.expr = .field path) :
    Copies path ⟨some text, expression⟩
  | expression {value : Json} (hfield : Expr.Written value (.field path)) :
    Copies path ⟨none, some value⟩

variable {c : Calculation} {path : String}

theorem Copies.evaluate_eq (h : c.Copies path) (row : Document) :
    c.evaluate row = (Document.decimal row path).map Decimal.toJson := by
  cases h with
  | formula expression d htext hfield =>
    have hread := Formula.ofText_eq_ok_iff.2 ⟨d, htext, rfl⟩
    have hexpr : d.formula.toExpr = .field path := d.toExpr_formula.trans hfield
    simp only [evaluate, hread, bind, Except.bind, hexpr, Expr.evaluate]
    cases Document.decimal row path <;> rfl
  | expression hfield =>
    simp only [evaluate, Expr.evaluateJson, (Expr.ofJson?_eq_some_iff _ _).2 hfield, Expr.evaluate]

theorem copies_dollar (name : Formula.Name) (expression : Option Json) :
    Copies (String.ofList name.chars) ⟨some (String.ofList ('$' :: name.chars)), expression⟩ := by
  refine .formula expression
    ⟨⟨[], rfl⟩, .chain (.chain (.field name) .done) .done, ⟨[], rfl⟩⟩ ?_ ?_
  · simp [Formula.Derivation.text, Formula.Phrase.text, Formula.Tail.text]
  · simp [Formula.Derivation.expr, Formula.Phrase.expr, Formula.Tail.expr]

/-- A decimal that is worth a whole number of 64 bits is written as that number if it fits them with
its sign, and else as a double near it. So is a field that a calculation copies. -/
theorem integers_written {n : Int} (h : Json.Fits64 n) :
    (∀ d : Decimal, d.value = n → Json.WrittenWhole n d.toJson) ∧
    ∀ (c : Calculation) (path : String) (row : Document), c.Copies path →
      Document.lookup? row path = some (.number (.integer n h)) →
        ∃ v, c.evaluate row = .ok v ∧ Json.WrittenWhole n v := by
  refine ⟨fun d hd => Decimal.writtenWhole_toJson hd h, fun c path row hcopies hfield => ?_⟩
  obtain ⟨d, hd, hwhole⟩ := Decimal.ofNumber?_integer h
  have hdecimal : Document.decimal row path = .ok d := by
    rw [Document.decimal, hfield]
    unfold Document.decimalOf
    simp only [hd]
  refine ⟨d.toJson, ?_, Decimal.writtenWhole_toJson hwhole.value h⟩
  rw [hcopies.evaluate_eq, hdecimal]
  rfl

def largestSigned : Decimal := ⟨false, 922337203685477580700, 2, by decide, by decide⟩

def copyId : Calculation := { formula := some "$id" }

theorem copies_copyId : copyId.Copies "id" :=
  copies_dollar ⟨['i', 'd'], by decide, by decide⟩ none

theorem integers_written_of_largestSigned :
    Json.Fits64 9223372036854775807 ∧
    largestSigned.value = (9223372036854775807 : Int) ∧
    largestSigned.toJson = .number (.integer 9223372036854775807 (by decide)) ∧
    copyId.evaluate [("id", .number (.integer 9223372036854775807 (by decide)))] =
      .ok (.number (.integer 9223372036854775807 (by decide))) := by
  have hfits : Json.Fits64 9223372036854775807 := by decide
  have hexact : ∀ v, Json.WrittenWhole 9223372036854775807 v →
      v = .number (.integer 9223372036854775807 hfits) := by
    intro v hv
    cases hv with
    | exact => rfl
    | near hbeyond => exact absurd hbeyond (by decide)
  have hvalue : largestSigned.value = (9223372036854775807 : Int) := by
    norm_num [largestSigned, Decimal.value, Decimal.signed]
  have hwritten := integers_written hfits
  obtain ⟨v, hv, hcopy⟩ := hwritten.2 copyId "id"
    [("id", .number (.integer 9223372036854775807 hfits))] copies_copyId rfl
  exact ⟨hfits, hvalue, hexact _ (hwritten.1 largestSigned hvalue), hexact v hcopy ▸ hv⟩

/-- The largest whole number of 64 bits is read as itself, but it is written as the double `2 ^ 64`,
and so is a copy of it. -/
theorem largest_integer_not_copied :
    (⟨false, 18446744073709551615, 0, by decide, by decide⟩ : Decimal).value =
      (18446744073709551615 : Int) ∧
    (⟨false, 18446744073709551615, 0, by decide, by decide⟩ : Decimal).toJson =
      .number (.double ⟨false, 4503599627370496, 1086, by decide⟩) ∧
    copyId.evaluate [("id", .number (.integer 18446744073709551615 (by decide)))] =
      .ok (.number (.double ⟨false, 4503599627370496, 1086, by decide⟩)) := by
  refine ⟨?_, by decide +kernel, ?_⟩
  · norm_num [Decimal.value, Decimal.signed]
  · rw [copies_copyId.evaluate_eq]
    decide +kernel

end Calculation

end ReportQuery
