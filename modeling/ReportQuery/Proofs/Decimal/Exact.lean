import ReportQuery.Decimal.Json
import ReportQuery.Proofs.Text.Padded

/-!
# Exact results

A result that a decimal can hold exactly is not rounded: it loses fraction digits only as long as
they are zeros. Sums and products of whole numbers are therefore exact, or too large.

Main statements: `fit?_of_dvd`, `settles_add?`, `settles_mul?`, `ofNumber?_integer`.
-/

namespace ReportQuery

namespace Decimal

/-! ## Fitting -/

section Fitting

variable {negative : Bool} {num den scale : Nat}

theorem fit?_of_lt (hscale : scale ≤ 28)
    (h : roundDiv .toEven (num * power 10 scale) den < 79228162514264337593543950336) :
    fit? negative num den scale hscale =
      some ⟨negative, roundDiv .toEven (num * power 10 scale) den, scale, h, hscale⟩ := by
  cases scale with
  | zero =>
    simp only [power_zero, Nat.mul_one] at h ⊢
    rw [fit?, dif_pos h]
  | succ scale => rw [fit?, dif_pos h]

theorem fit?_succ_of_le (hscale : scale + 1 ≤ 28)
    (h : 79228162514264337593543950336 ≤ roundDiv .toEven (num * power 10 (scale + 1)) den) :
    fit? negative num den (scale + 1) hscale =
      fit? negative num den scale (Nat.le_of_succ_le hscale) := by
  rw [fit?, dif_neg (Nat.not_lt.2 h)]

theorem fit?_of_dvd {places : Nat} (hden : 0 < den) (hexact : den ∣ num * power 10 places)
    (hlt : num * power 10 places < 79228162514264337593543950336 * den)
    (hplaces : places ≤ scale) (hscale : scale ≤ 28) :
    ∃ d, fit? negative num den scale hscale = some d ∧ d.negative = negative ∧ d.scale ≤ scale ∧
      d.mantissa * den = num * power 10 d.scale := by
  have hmul : ∀ more, places ≤ more →
      roundDiv .toEven (num * power 10 more) den * den = num * power 10 more := fun more hmore =>
    roundDiv_mul_of_dvd _ hden
      (Nat.dvd_trans hexact (Nat.mul_dvd_mul_left num (power_dvd 10 hmore)))
  have hfits : roundDiv .toEven (num * power 10 places) den < 79228162514264337593543950336 := by
    rw [← hmul places (Nat.le_refl _)] at hlt
    exact Nat.lt_of_mul_lt_mul_right hlt
  induction scale with
  | zero =>
    obtain rfl := Nat.le_zero.1 hplaces
    exact ⟨_, fit?_of_lt hscale hfits, rfl, Nat.le_refl 0, hmul 0 (Nat.le_refl 0)⟩
  | succ scale ih =>
    by_cases h : roundDiv .toEven (num * power 10 (scale + 1)) den < 79228162514264337593543950336
    · exact ⟨_, fit?_of_lt hscale h, rfl, Nat.le_refl _, hmul _ hplaces⟩
    · -- With `places` digits it fits, so that the digit to drop is one more than these.
      have hless : places ≤ scale := by
        refine Nat.le_of_lt_succ (Nat.lt_of_le_of_ne hplaces ?_)
        rintro rfl
        exact h hfits
      rw [fit?_succ_of_le hscale (Nat.not_lt.1 h)]
      obtain ⟨d, hd, hsign, hle, hvalue⟩ := ih hless (Nat.le_of_succ_le hscale)
      exact ⟨d, hd, hsign, Nat.le_succ_of_le hle, hvalue⟩

theorem fit?_eq_none_of_le (hden : 0 < den) (h : 79228162514264337593543950336 * den ≤ num)
    (hscale : scale ≤ 28) : fit? negative num den scale hscale = none := by
  have hround : ∀ places, 79228162514264337593543950336 ≤
      roundDiv .toEven (num * power 10 places) den := by
    intro places
    refine Nat.le_trans ?_ (div_le_roundDiv _ _ _)
    rw [Nat.le_div_iff_mul_le hden]
    exact Nat.le_trans h (Nat.le_mul_of_pos_right num (power_pos 10 places (by decide)))
  induction scale with
  | zero =>
    have hzero := hround 0
    rw [power_zero, Nat.mul_one] at hzero
    rw [fit?, dif_neg (Nat.not_lt.2 hzero)]
  | succ scale ih => rw [fit?_succ_of_le hscale (hround _), ih]

end Fitting

/-! ## Signs -/

theorem natAbs_signed (d : Decimal) : d.signed.natAbs = d.mantissa := by
  unfold signed
  split <;> simp

theorem isZero_iff {d : Decimal} : d.isZero = true ↔ d.signed = 0 := by
  rw [isZero, decide_eq_true_eq, ← natAbs_signed, Int.natAbs_eq_zero]

theorem signed_neg (d : Decimal) : d.neg.signed = -d.signed := by
  rw [neg, signed, signed]
  cases d.negative <;> simp

/-! ## Whole numbers -/

/-- The decimal is the whole number `n`, written without fraction digits. -/
structure IsWhole (d : Decimal) (n : Int) : Prop where
  scale : d.scale = 0
  signed : d.signed = n

/-- The whole numbers whose magnitude has 96 bits. -/
def InRange (n : Int) : Prop := n.natAbs ≤ 79228162514264337593543950335

instance (n : Int) : Decidable (InRange n) := inferInstanceAs (Decidable (_ ≤ _))

/-- The result is `n` exactly, or it is none and `n` is out of range. -/
def Settles (result : Option Decimal) (n : Int) : Prop :=
  (InRange n ∧ ∃ d, result = some d ∧ d.IsWhole n) ∨ (¬ InRange n ∧ result = none)

variable {a b : Decimal} {m n : Int}

theorem IsWhole.inRange (h : a.IsWhole n) : InRange n := by
  rw [InRange, ← h.signed, natAbs_signed]
  exact Nat.le_of_lt_succ a.mantissa_lt

theorem IsWhole.settles (h : a.IsWhole n) : Settles (some a) n :=
  .inl ⟨h.inRange, a, rfl, h⟩

theorem isWhole_zero : IsWhole zero 0 := ⟨rfl, rfl⟩

theorem IsWhole.neg (h : a.IsWhole n) : a.neg.IsWhole (-n) :=
  ⟨h.scale, by rw [signed_neg, h.signed]⟩

theorem settles_fit? {negative : Bool} {num scale more : Nat} (hscale : scale = 0)
    (hmore : more = 0) (hle : scale ≤ 28) (hn : (if negative then -(num : Int) else num) = n) :
    Settles (fit? negative num (power 10 more) scale hle) n := by
  subst hscale hmore
  have habs : n.natAbs = num := by
    rw [← hn]
    split <;> simp
  have hpos := power_pos 10 0 (by decide)
  by_cases h : InRange n
  · have hlt : num * power 10 0 < 79228162514264337593543950336 * power 10 0 := by
      rw [InRange, habs] at h
      rw [power_zero, Nat.mul_one, Nat.mul_one]
      exact Nat.lt_succ_of_le h
    obtain ⟨d, hd, hsign, hzero, hvalue⟩ :=
      fit?_of_dvd hpos (Nat.dvd_mul_left _ _) hlt (Nat.le_refl 0) hle
    have hscale : d.scale = 0 := Nat.le_zero.1 hzero
    rw [hscale, power_zero, Nat.mul_one, Nat.mul_one] at hvalue
    exact .inl ⟨h, d, hd, hscale, by rw [Decimal.signed, hsign, hvalue, hn]⟩
  · refine .inr ⟨h, fit?_eq_none_of_le hpos ?_ hle⟩
    rw [InRange, habs] at h
    rw [power_zero, Nat.mul_one]
    omega

theorem settles_add? (ha : a.IsWhole m) (hb : b.IsWhole n) : Settles (a.add? b) (m + n) := by
  unfold add?
  split
  · next hzero =>
    rw [isZero_iff, ha.signed] at hzero
    rw [hzero, Int.zero_add]
    exact hb.settles
  · split
    · next hzero =>
      rw [isZero_iff, hb.signed] at hzero
      rw [hzero, Int.add_zero]
      exact ha.settles
    · have hsum : a.signed * power 10 b.scale + b.signed * power 10 a.scale = m + n := by
        rw [ha.scale, hb.scale, ha.signed, hb.signed]
        simp
      refine settles_fit? (by rw [ha.scale, hb.scale]; rfl) (by rw [ha.scale, hb.scale]) _ ?_
      simp only [hsum, decide_eq_true_eq]
      split <;> omega

theorem settles_mul? (ha : a.IsWhole m) (hb : b.IsWhole n) : Settles (a.mul? b) (m * n) := by
  unfold mul?
  split
  · next hzero =>
    have hproduct : m * n = 0 := by
      rw [isZero_iff, isZero_iff, ha.signed, hb.signed] at hzero
      rcases hzero with rfl | rfl
      · exact Int.zero_mul n
      · exact Int.mul_zero m
    rw [hproduct]
    exact isWhole_zero.settles
  · refine settles_fit? (by rw [ha.scale, hb.scale]; rfl) (by rw [ha.scale, hb.scale]) _ ?_
    rw [← ha.signed, ← hb.signed, signed, signed]
    cases a.negative <;> cases b.negative <;>
      simp only [bne_self_eq_false, Bool.bne_true, Bool.bne_false, Bool.not_false,
        Bool.false_eq_true, if_true, if_false, Int.natCast_mul, Int.neg_mul, Int.mul_neg,
        Int.neg_neg]

/-! ## Reading whole numbers -/

theorem le_foldl_digits (digits : List Char) (n : Nat) :
    n ≤ digits.foldl (fun n c => n * 10 + Text.digitValue c) n := by
  induction digits generalizing n with
  | nil => exact Nat.le_refl n
  | cons c digits ih =>
    have hstep : n ≤ n * 10 + Text.digitValue c := by omega
    exact Nat.le_trans hstep (ih _)

theorem readMagnitude_digits {digits : List Char} (hall : digits.all Text.isDigit = true)
    {seen : Bool} (hseen : digits ≠ [] ∨ seen = true) (m : Magnitude)
    (h : digits.foldl (fun n c => n * 10 + Text.digitValue c) m.mantissa <
      79228162514264337593543950336) :
    readMagnitude seen false m digits = .ok { m with
      mantissa := digits.foldl (fun n c => n * 10 + Text.digitValue c) m.mantissa
      mantissa_lt := h } := by
  induction digits generalizing seen m with
  | nil => rw [readMagnitude, if_pos (hseen.resolve_left (· rfl))]; rfl
  | cons c digits ih =>
    rw [List.all_cons, Bool.and_eq_true] at hall
    rw [List.foldl_cons] at h
    have hlt := Nat.lt_of_le_of_lt (le_foldl_digits digits _) h
    rw [readMagnitude, if_pos hall.1, if_neg Bool.false_ne_true, dif_pos hlt]
    exact ih hall.2 (.inr rfl) _ h

theorem readSign_digits {digits : List Char} (hall : digits.all Text.isDigit = true) :
    readSign digits = (false, digits) := by
  unfold readSign
  split
  · exact absurd hall (by simp [Text.isDigit])
  · exact absurd hall (by simp [Text.isDigit])
  · rfl

theorem ofText_of_all {text : List Char}
    (hall : text.all (fun c => c ≠ 'e' && c ≠ 'E') = true) : ofText text = readPlain text := by
  unfold ofText
  simp only [Text.takeWhile_eq_self hall, List.drop_length]

theorem notExponent_of_isDigit {c : Char} (h : Text.isDigit c = true) :
    (decide (c ≠ 'e') && decide (c ≠ 'E')) = true := by
  have := Text.isDigit_iff.1 h
  rw [Bool.and_eq_true, decide_eq_true_eq, decide_eq_true_eq]
  constructor <;> (rintro rfl; revert this; decide)

theorem readPlain_natDigits {text : List Char} {negative : Bool} {k : Nat} (hne : text ≠ [])
    (hsign : readSign text = (negative, Text.natDigits k))
    (h : k < 79228162514264337593543950336) :
    readPlain text = .ok ⟨negative && k ≠ 0, k, 0, h, zero.scale_le⟩ := by
  have hvalue := Text.digitsValue_natDigits k
  unfold Text.digitsValue at hvalue
  have hread : readMagnitude false false ⟨0, 0, zero.mantissa_lt, zero.scale_le⟩
      (Text.natDigits k) = _ :=
    readMagnitude_digits (Text.natDigits_all k) (.inl (Text.natDigits_ne_nil k)) _
      (hvalue.symm ▸ h)
  simp only [hvalue] at hread
  rw [readPlain, if_neg hne, hsign]
  simp only [hread, bind, Except.bind]
  rfl

theorem ofText?_intDigits (h : InRange n) :
    ∃ d, ofText? (Text.intDigits n) = some d ∧ d.IsWhole n := by
  have hlt : n.natAbs < 79228162514264337593543950336 := Nat.lt_succ_of_le h
  have hdigits := Text.natDigits_all n.natAbs
  have hall : (Text.natDigits n.natAbs).all (fun c => c ≠ 'e' && c ≠ 'E') = true :=
    List.all_eq_true.2 fun c hc => notExponent_of_isDigit (List.all_eq_true.1 hdigits c hc)
  unfold Text.intDigits ofText?
  split
  · next hneg =>
    rw [ofText_of_all (by rw [List.all_cons, hall]; rfl),
      readPlain_natDigits (List.cons_ne_nil _ _) rfl hlt]
    refine ⟨_, rfl, rfl, ?_⟩
    have hnonzero : n.natAbs ≠ 0 := by omega
    simp only [signed, hnonzero, ne_eq, not_false_eq_true, decide_true, Bool.and_self, if_true]
    omega
  · next hnonneg =>
    rw [ofText_of_all hall,
      readPlain_natDigits (Text.natDigits_ne_nil _) (readSign_digits hdigits) hlt]
    refine ⟨_, rfl, rfl, ?_⟩
    simp only [signed, Bool.false_and, Bool.false_eq_true, if_false]
    omega

theorem ofNumber?_integer (h : Json.Fits64 n) :
    ∃ d, ofNumber? (.integer n h) = some d ∧ d.IsWhole n := by
  have hrange : InRange n := by
    have := h.1
    have := h.2
    rw [InRange]
    omega
  obtain ⟨d, hd, hwhole⟩ := ofText?_intDigits hrange
  refine ⟨d, ?_, hwhole⟩
  unfold ofNumber?
  simp only [Json.Number.toText, hd]

end Decimal

end ReportQuery
