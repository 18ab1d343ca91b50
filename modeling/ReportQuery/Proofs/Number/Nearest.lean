import ReportQuery.Number.Binary64

/-!
# Doubles near whole numbers

A double has 53 bits of a magnitude, so it is at most half a unit of the last of them away from it.

Main statement: `Binary64.ofNat?_near`.
-/

namespace ReportQuery.Binary64

section Rounding

variable {num unit : Nat}

theorem scaleOf_eq (hunit : 1 ≤ unit) (hlow : 4503599627370496 * power 2 unit ≤ num)
    (hhigh : num < 9007199254740992 * power 2 unit) : scaleOf num 1 = unit := by
  have hfirst : power 2 (unit + 52) = 4503599627370496 * power 2 unit := by
    rw [Nat.add_comm, power_add]
    rfl
  have hlast : power 2 (unit + 53) = 9007199254740992 * power 2 unit := by
    rw [Nat.add_comm, power_add]
    rfl
  have hpos := power_pos 2 unit (by decide)
  have hlog : Nat.log2 num = unit + 52 := by
    rw [Nat.log2_eq_iff (by omega)]
    exact ⟨Nat.le_trans (Nat.le_of_eq hfirst) hlow, Nat.lt_of_lt_of_eq hhigh hlast.symm⟩
  have hguess : unit + 52 - Nat.log2 1 - 53 = unit - 1 := by
    have hone : Nat.log2 1 = 0 := by decide
    omega
  have hbits : unit - 1 + 53 = unit + 52 := by omega
  unfold scaleOf
  rw [hlog, hguess]
  simp only [hbits, hfirst, Nat.one_mul, if_pos hlow]
  omega

theorem ofScaled?_near (negative : Bool) (hunit : 1 ≤ unit) (hmax : unit ≤ 2044)
    (hlow : 4503599627370496 * power 2 unit ≤ num) (hhigh : num < 9007199254740992 * power 2 unit) :
    ∃ x, ofScaled? negative num 1 = some x ∧ x.negative = negative ∧
      2 * num ≤ 2 * x.magnitude + power 2 unit ∧ 2 * x.magnitude ≤ 2 * num + power 2 unit := by
  have hpos := power_pos 2 unit (by decide)
  have hnear := roundDiv_within .toEven num hpos
  have hlower : 4503599627370496 ≤ roundDiv .toEven num (power 2 unit) :=
    Nat.le_trans ((Nat.le_div_iff_mul_le hpos).2 hlow) (div_le_roundDiv _ _ _)
  have hupper : roundDiv .toEven num (power 2 unit) ≤ 9007199254740992 := by
    refine Nat.le_of_not_lt fun hlt => ?_
    have hmul := Nat.mul_le_mul_right (power 2 unit) (Nat.succ_le_of_lt hlt)
    omega
  obtain ⟨rounded, hrounded⟩ : ∃ n, roundDiv .toEven num (power 2 unit) = n := ⟨_, rfl⟩
  rw [hrounded] at hnear hlower hupper
  unfold ofScaled?
  simp only [scaleOf_eq hunit hlow hhigh, Nat.one_mul, hrounded]
  -- A significand that is rounded up to 54 bits is halved, and the unit doubled.
  by_cases hcarry : rounded = 9007199254740992
  · have hcanonical : Canonical 4503599627370496 (unit + 1) := by
      unfold Canonical
      omega
    rw [hcarry] at hnear
    simp only [hcarry, if_true, hcanonical, dite_true]
    refine ⟨_, rfl, rfl, ?_⟩
    simp only [magnitude, power_succ]
    omega
  · have hcanonical : Canonical rounded unit := by
      unfold Canonical
      omega
    simp only [hcarry, if_false, hcanonical, dite_true]
    exact ⟨_, rfl, rfl, hnear⟩

end Rounding

theorem ofNat?_near {n bits : Nat} (hbits : bits ≤ 1022) (hlow : power 2 bits ≤ n)
    (hhigh : n < power 2 (bits + 1)) :
    ∃ x, ofNat? n = some x ∧ x.negative = false ∧
      2 * (n * smallest) ≤ 2 * x.magnitude + power 2 (bits + 1022) ∧
      2 * x.magnitude ≤ 2 * (n * smallest) + power 2 (bits + 1022) := by
  have hsmallest : 0 < smallest := power_pos 2 1074 (by decide)
  have hpower : ∀ more, power 2 (bits + more) * smallest =
      power 2 (more + 52) * power 2 (bits + 1022) := by
    intro more
    have hsum : bits + more + 1074 = more + 52 + (bits + 1022) := by omega
    rw [smallest, ← power_add, ← power_add, hsum]
  have hfirst : power 2 bits * smallest = 4503599627370496 * power 2 (bits + 1022) := hpower 0
  have hlast : power 2 (bits + 1) * smallest = 9007199254740992 * power 2 (bits + 1022) := hpower 1
  unfold ofNat? nearest?
  refine ofScaled?_near false (by omega) (by omega) ?_ ?_
  · rw [← hfirst]
    exact Nat.mul_le_mul_right _ hlow
  · rw [← hlast]
    exact Nat.mul_lt_mul_of_pos_right hhigh hsmallest

end ReportQuery.Binary64
