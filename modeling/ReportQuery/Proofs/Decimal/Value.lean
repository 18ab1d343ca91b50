import Mathlib.Algebra.Order.Round
import Mathlib.Data.Rat.Floor
import Mathlib.Tactic.FieldSimp
import Mathlib.Tactic.Ring
import ReportQuery.Proofs.Decimal.Exact

/-!
# What a decimal is worth

A decimal is worth a rational number. Rounding it to fewer fraction digits gives the nearest number
with so many, half a unit going away from zero.

Main statement: `value_round`.
-/

namespace ReportQuery

/-! ## Rounding rationals -/

/-- The number with `places` fraction digits nearest to `q`, half a unit going away from zero. -/
def roundAway (places : Nat) (q : ℚ) : ℚ :=
  if q < 0 then -(round (-q * 10 ^ places) / 10 ^ places) else round (q * 10 ^ places) / 10 ^ places

theorem roundAway_of_nonneg {places : Nat} {q : ℚ} (h : 0 ≤ q) :
    roundAway places q = round (q * 10 ^ places) / 10 ^ places :=
  if_neg (not_lt.2 h)

theorem roundAway_neg (places : Nat) (q : ℚ) : roundAway places (-q) = -roundAway places q := by
  rcases lt_trichotomy q 0 with h | rfl | h
  · rw [roundAway_of_nonneg (neg_nonneg.2 h.le), roundAway, if_pos h, neg_neg]
  · simp [roundAway]
  · rw [roundAway_of_nonneg h.le, roundAway, if_pos (neg_lt_zero.2 h), neg_neg]

theorem lt_roundDiv_awayFromZero (n : Nat) {d : Nat} (h : 0 < d) :
    2 * n < 2 * (roundDiv .awayFromZero n d * d) + d := by
  have hn := Nat.div_add_mod' n d
  have hm := Nat.mod_lt n h
  simp only [roundDiv, Tie.goesUp, and_true]
  split
  · rw [Nat.add_mul]
    omega
  · omega

theorem round_div (n : Nat) {d : Nat} (h : 0 < d) :
    round ((n : ℚ) / d) = roundDiv .awayFromZero n d := by
  have hlt := lt_roundDiv_awayFromZero n h
  have hle := (roundDiv_within .awayFromZero n h).2
  have hd : (0 : ℚ) < d := Nat.cast_pos.2 h
  rw [round_eq_iff, Set.mem_Ico, le_div_iff₀ hd, div_lt_iff₀ hd]
  have hlt' : (2 * n : ℚ) < 2 * (roundDiv .awayFromZero n d * d) + d := by exact_mod_cast hlt
  have hle' : (2 * (roundDiv .awayFromZero n d * d) : ℚ) ≤ 2 * n + d := by exact_mod_cast hle
  push_cast
  constructor <;> linarith

namespace Decimal

theorem cast_power (n : Nat) : ((power 10 n : Nat) : ℚ) = 10 ^ n := by
  rw [power, Nat.pow_eq, Nat.cast_pow, Nat.cast_ofNat]

/-- The number that a decimal stands for. -/
def value (d : Decimal) : ℚ := d.signed / 10 ^ d.scale

theorem value_neg (d : Decimal) : d.neg.value = -d.value := by
  rw [value, signed_neg, Int.cast_neg, neg_div]
  rfl

variable {d : Decimal}

theorem value_of_nonneg (h : d.negative = false) : d.value = d.mantissa / 10 ^ d.scale := by
  simp [value, signed, h]

theorem value_of_negative (h : d.negative = true) : d.value = -(d.mantissa / 10 ^ d.scale) := by
  simp [value, signed, h, neg_div]

theorem value_nonneg (h : d.negative = false) : 0 ≤ d.value := by
  rw [value_of_nonneg h]
  positivity

theorem abs_value (d : Decimal) : |d.value| = d.mantissa / 10 ^ d.scale := by
  rw [value, abs_div, abs_of_pos (by positivity : (0 : ℚ) < 10 ^ d.scale), ← Int.cast_abs,
    Int.abs_eq_natAbs, natAbs_signed, Int.cast_natCast]

theorem abs_value_eq_div {num den : Nat} (hden : 0 < den)
    (h : d.mantissa * den = num * power 10 d.scale) : |d.value| = num / den := by
  have hcast : (d.mantissa * den : ℚ) = num * 10 ^ d.scale := by
    rw [← cast_power]
    exact_mod_cast h
  have hne : (den : ℚ) ≠ 0 := Nat.cast_ne_zero.2 hden.ne'
  have hpower : (10 : ℚ) ^ d.scale ≠ 0 := by positivity
  rw [abs_value, div_eq_div_iff hpower hne, hcast]

theorem value_eq_zero_iff : d.value = 0 ↔ d.isZero = true := by
  have hpower : (10 : ℚ) ^ d.scale ≠ 0 := by positivity
  rw [value, div_eq_zero_iff, or_iff_left hpower, Int.cast_eq_zero, isZero_iff]

theorem value_eq_mul {e : Decimal} {c : ℚ} (hsign : d.negative = e.negative)
    (h : |d.value| = c * |e.value|) : d.value = c * e.value := by
  rw [abs_value, abs_value] at h
  cases hnegative : e.negative with
  | false => rw [value_of_nonneg (hsign.trans hnegative), value_of_nonneg hnegative, h]
  | true => rw [value_of_negative (hsign.trans hnegative), value_of_negative hnegative, h, mul_neg]

theorem value_lt_zero_iff : d.value < 0 ↔ d.negative = true ∧ d.isZero = false := by
  have hpower : (0 : ℚ) < 10 ^ d.scale := by positivity
  rw [value, div_lt_iff₀ hpower, zero_mul, Int.cast_lt_zero, signed, isZero,
    decide_eq_false_iff_not]
  cases d.negative with
  | false => simp
  | true => simp [Nat.pos_iff_ne_zero]

theorem value_round_of_nonneg (h : d.negative = false) (places : Nat) :
    (d.round places).value = roundAway places d.value := by
  rw [roundAway_of_nonneg (value_nonneg h), value_of_nonneg h]
  by_cases hplaces : places < d.scale
  · have hpower : (10 : ℚ) ^ d.scale = 10 ^ (d.scale - places) * 10 ^ places := by
      rw [← pow_add, Nat.sub_add_cancel hplaces.le]
    have hquotient : (d.mantissa : ℚ) / 10 ^ d.scale * 10 ^ places =
        d.mantissa / (power 10 (d.scale - places) : Nat) := by
      rw [cast_power, hpower]
      field_simp
    rw [hquotient, round_div _ (power_pos 10 _ (by decide)), value_of_nonneg, round, dif_pos hplaces]
    · simp
    · rw [round, dif_pos hplaces, h]
  · have hpower : (10 : ℚ) ^ places = 10 ^ (places - d.scale) * 10 ^ d.scale := by
      rw [← pow_add, Nat.sub_add_cancel (not_lt.1 hplaces)]
    have hwhole : (d.mantissa : ℚ) / 10 ^ d.scale * 10 ^ places =
        ((d.mantissa * 10 ^ (places - d.scale) : Nat) : ℚ) := by
      rw [hpower]
      push_cast
      field_simp
    rw [round, dif_neg hplaces, value_of_nonneg h, hwhole, round_natCast, hpower]
    push_cast
    field_simp

theorem round_neg (places : Nat) (d : Decimal) : d.neg.round places = (d.round places).neg := by
  by_cases hplaces : places < d.scale <;> simp [round, neg, hplaces]

theorem value_round (places : Nat) (d : Decimal) :
    (d.round places).value = roundAway places d.value := by
  cases h : d.negative with
  | false => exact value_round_of_nonneg h places
  | true =>
    have hneg : d.neg.negative = false := by rw [neg, h]; rfl
    have hvalue := value_round_of_nonneg hneg places
    rwa [round_neg, value_neg, value_neg, roundAway_neg, neg_inj] at hvalue

end Decimal

end ReportQuery
