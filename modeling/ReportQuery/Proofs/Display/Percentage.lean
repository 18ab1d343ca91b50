import ReportQuery.Display.Percentage
import ReportQuery.Proofs.Decimal.Figure

/-!
# The value of a percentage

A ratio times one hundred is exact unless it is too large, so a percentage is rounded once only, to
the fraction digits that it shows.

Main statement: `percentage?_rounds_once`.
-/

namespace ReportQuery.Decimal

/-! ## One hundred times a ratio -/

theorem hundred_mul_cases {m : Nat} (hm : m < 79228162514264337593543950336) (scale : Nat) :
    79228162514264337593543950336 * power 10 scale ≤ m * 100 ∨
      (m * 100 ≤ 79228162514264337593543950335 * power 10 scale ∧
        power 10 scale ∣ m * 100 * power 10 (scale - 2) ∧
        m * 100 * power 10 (scale - 2) < 79228162514264337593543950336 * power 10 scale) := by
  match scale with
  | 0 =>
    simp only [Nat.zero_sub, power_zero, Nat.mul_one]
    have := Nat.one_dvd (m * 100)
    omega
  | 1 =>
    have hten : power 10 1 = 10 := rfl
    have hdvd : 10 ∣ m * 100 := ⟨m * 10, by omega⟩
    simp only [hten, Nat.reduceSub, power_zero, Nat.mul_one, hdvd, true_and]
    omega
  | scale + 2 =>
    -- The factor takes two fraction digits back, so that every mantissa fits.
    right
    have hpos := power_pos 10 scale (by decide)
    have hpower : m * 100 * power 10 scale = m * power 10 (scale + 2) := by
      rw [power_succ, power_succ]
      ring
    have hle : m * 100 ≤ m * power 10 (scale + 2) := by
      rw [← hpower]
      exact Nat.le_mul_of_pos_right _ hpos
    rw [Nat.add_sub_cancel, hpower]
    exact ⟨hle.trans (Nat.mul_le_mul_right _ (Nat.le_of_lt_succ hm)), Nat.dvd_mul_left _ _,
      Nat.mul_lt_mul_of_pos_right hm (power_pos 10 _ (by decide))⟩

theorem hundred_mul_abs_value (ratio : Decimal) :
    100 * |ratio.value| = (ratio.mantissa * 100 : Nat) / (power 10 ratio.scale : Nat) := by
  rw [abs_value, cast_power]
  push_cast
  ring

/-- One hundred times a ratio is exact, or it is too large for a decimal. -/
theorem mul?_hundred (ratio : Decimal) :
    (79228162514264337593543950335 < 100 * |ratio.value| ∧ ratio.mul? hundred = none) ∨
      (100 * |ratio.value| ≤ 79228162514264337593543950335 ∧
        ∃ d, ratio.mul? hundred = some d ∧ d.value = 100 * ratio.value) := by
  have hpos := power_pos 10 ratio.scale (by decide)
  have hpower : (0 : ℚ) < (power 10 ratio.scale : Nat) := Nat.cast_pos.2 hpos
  have hplaces : ratio.scale - 2 ≤ min 28 (ratio.scale + hundred.scale) :=
    (Nat.sub_le _ 2).trans (Nat.le_min.2 ⟨ratio.scale_le, Nat.le_add_right _ _⟩)
  unfold mul?
  split
  · next hzero =>
    have hratio : ratio.value = 0 := value_eq_zero_iff.2 (hzero.resolve_right (by decide))
    refine .inr ⟨by simp [hratio], zero, rfl, ?_⟩
    rw [hratio, mul_zero, value_eq_zero_iff]
    rfl
  · rw [hundred_mul_abs_value]
    rcases hundred_mul_cases ratio.mantissa_lt ratio.scale with hlarge | ⟨hle, hexact, hlt⟩
    · refine .inl ⟨?_, fit?_eq_none_of_le hpos hlarge _⟩
      rw [lt_div_iff₀ hpower]
      exact_mod_cast (by omega : 79228162514264337593543950335 * power 10 ratio.scale <
        ratio.mantissa * 100)
    · refine .inr ⟨?_, ?_⟩
      · rw [div_le_iff₀ hpower]
        exact_mod_cast hle
      · obtain ⟨d, hd, hsign, -, hmantissa⟩ :=
          fit?_of_dvd hpos hexact hlt hplaces (Nat.min_le_left 28 _)
        refine ⟨d, hd, value_eq_mul (hsign.trans (Bool.xor_false _)) ?_⟩
        rw [hundred_mul_abs_value, abs_value_eq_div hpos hmantissa]

/-! ## Fraction digits -/

/-- Zero as it is shown, without fraction digits and without a sign. -/
def plainZero (d : Decimal) : Decimal := if d.isZero then zero else d

theorem value_plainZero (d : Decimal) : d.plainZero.value = d.value := by
  unfold plainZero
  split
  · next hzero => rw [value_eq_zero_iff.2 hzero, value_eq_zero_iff.2 rfl]
  · rfl

theorem scale_plainZero_le (d : Decimal) : d.plainZero.scale ≤ d.scale := by
  unfold plainZero
  split
  · exact Nat.zero_le _
  · exact Nat.le_refl _

theorem negative_plainZero (d : Decimal) :
    d.plainZero.negative = true ↔ d.plainZero.value < 0 := by
  rw [value_lt_zero_iff]
  unfold plainZero
  cases hzero : d.isZero with
  | true => exact iff_of_false Bool.false_ne_true (fun h => Bool.false_ne_true h.1)
  | false => exact (and_iff_left hzero).symm

theorem exists_figure_textWithPlaces {places : Nat} {d : Decimal} (h : d.scale ≤ places) :
    ∃ f : Figure, textWithPlaces places d = f.text ∧ f.fraction.length = places ∧
      f.value = d.value ∧ (f.negative = true ↔ f.value < 0) := by
  have hscale := d.scale_plainZero_le
  have hfraction : d.plainZero.figure.fraction.length = d.plainZero.scale :=
    d.plainZero.length_digitParts.2
  have hworth : (d.plainZero.figure.withZeros (places - d.plainZero.scale)).value =
      d.plainZero.value := by
    rw [Figure.value_withZeros, value_figure]
  refine ⟨d.plainZero.figure.withZeros (places - d.plainZero.scale), ?_, ?_, ?_, ?_⟩
  · have hpoint : (d.plainZero.scale = 0 ∧ places ≠ 0) ↔
        (d.plainZero.figure.fraction = [] ∧ places - d.plainZero.scale ≠ 0) := by
      rw [← List.length_eq_zero_iff, hfraction]
      omega
    rw [Figure.text_withZeros, ← toText_eq_text]
    simp only [← hpoint]
    rfl
  · rw [Figure.withZeros, List.length_append, List.length_replicate, hfraction]
    omega
  · rw [hworth, value_plainZero]
  · rw [hworth]
    exact d.negative_plainZero

/-! ## Percentages -/

/-- The text of a ratio that is not too large is one hundred times the ratio, rounded once. -/
theorem percentage?_rounds_once (places : Nat) (ratio : Decimal) :
    (79228162514264337593543950335 < 100 * |ratio.value| ∧ ratio.percentage? places = none) ∨
      (100 * |ratio.value| ≤ 79228162514264337593543950335 ∧
        ∃! f : Figure, ratio.percentage? places = some (f.text ++ ['%']) ∧
          f.fraction.length = places ∧ f.value = roundAway places (100 * ratio.value) ∧
          (f.negative = true ↔ f.value < 0) ∧ ('.' ∈ f.text ↔ places ≠ 0)) := by
  unfold percentage?
  rcases mul?_hundred ratio with ⟨hlarge, hnone⟩ | ⟨hle, d, hd, hvalue⟩
  · exact .inl ⟨hlarge, by rw [hnone, Option.map_none]⟩
  · obtain ⟨f, hf, hlength, hworth, hsign⟩ :=
      exists_figure_textWithPlaces (d.round_scale_le places)
    refine .inr ⟨hle, f, ⟨?_, hlength, ?_, hsign, ?_⟩, ?_⟩
    · rw [hd, Option.map_some, hf]
    · rw [hworth, value_round, hvalue]
    · rw [f.point_mem_text, ne_eq, ← List.length_eq_zero_iff, hlength]
    · rintro g ⟨hg, -⟩
      rw [hd, Option.map_some, hf] at hg
      exact Figure.text_injective (List.append_cancel_right (Option.some.inj hg)).symm

end ReportQuery.Decimal
