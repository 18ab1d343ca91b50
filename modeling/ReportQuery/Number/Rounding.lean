/-!
# Rounding a quotient

`roundDiv tie n d` is the whole number nearest to `n / d`. A quotient half way between two of them
goes as `tie` says.
-/

namespace ReportQuery

/-- Where a value half way between two candidates goes. -/
inductive Tie where
  | toEven
  | awayFromZero
deriving DecidableEq, Repr

namespace Tie

/-- Whether a tie above the whole part `whole` goes up. -/
def goesUp : Tie → Nat → Bool
  | toEven, whole => whole % 2 = 1
  | awayFromZero, _ => true

end Tie

/-- The whole number nearest to `n / d`; the whole part when `d` is zero. -/
def roundDiv (tie : Tie) (n d : Nat) : Nat :=
  let whole := n / d
  let twice := 2 * (n % d)
  if d < twice ∨ (twice = d ∧ d ≠ 0 ∧ tie.goesUp whole) then whole + 1 else whole

theorem roundDiv_mul (tie : Tie) (k : Nat) {d : Nat} (h : 0 < d) : roundDiv tie (k * d) d = k := by
  simp only [roundDiv, Nat.mul_mod_left, Nat.mul_div_cancel k h, Nat.mul_zero]
  rw [if_neg]
  omega

theorem roundDiv_mul_of_dvd (tie : Tie) {n d : Nat} (hd : 0 < d) (h : d ∣ n) :
    roundDiv tie n d * d = n := by
  obtain ⟨k, rfl⟩ := h
  rw [Nat.mul_comm d k, roundDiv_mul tie k hd]

theorem div_le_roundDiv (tie : Tie) (n d : Nat) : n / d ≤ roundDiv tie n d := by
  simp only [roundDiv]
  split
  · exact Nat.le_succ _
  · exact Nat.le_refl _

/-- The rounded quotient is at most half a unit away. -/
theorem roundDiv_within (tie : Tie) (n : Nat) {d : Nat} (h : 0 < d) :
    2 * n ≤ 2 * (roundDiv tie n d * d) + d ∧ 2 * (roundDiv tie n d * d) ≤ 2 * n + d := by
  have hn := Nat.div_add_mod n d
  have hm := Nat.mod_lt n h
  rw [Nat.mul_comm d (n / d)] at hn
  simp only [roundDiv]
  split
  · simp only [Nat.add_mul, Nat.one_mul]; omega
  · omega

end ReportQuery
