import ReportQuery.Number.Powers
import ReportQuery.Number.Rounding

/-!
# Decimals

Signed decimals of 96 bits with at most 28 fraction digits. `fit?` gives the decimal nearest to an
exact quotient, with as many fraction digits as fit. Sums, products and quotients are exact results
put through it.
-/

namespace ReportQuery

/-- A decimal, worth `mantissa / 10 ^ scale` with its sign. Zero has a sign and a scale too. -/
structure Decimal where
  negative : Bool
  mantissa : Nat
  scale : Nat
  mantissa_lt : mantissa < 79228162514264337593543950336
  scale_le : scale ≤ 28
deriving DecidableEq

namespace Decimal

def maxScale : Nat := 28

theorem maxScale_le : maxScale ≤ 28 := Nat.le_refl 28

def zero : Decimal := ⟨false, 0, 0, by decide, by decide⟩

instance : Inhabited Decimal := ⟨zero⟩

def hundred : Decimal := ⟨false, 100, 0, by decide, by decide⟩

def isZero (d : Decimal) : Bool := d.mantissa = 0

def signed (d : Decimal) : Int := if d.negative then -(d.mantissa : Int) else d.mantissa

def neg (d : Decimal) : Decimal := { d with negative := !d.negative }

def abs (d : Decimal) : Decimal := { d with negative := false }

/-- Two decimals are worth the same. -/
def Same (a b : Decimal) : Prop := a.signed * power 10 b.scale = b.signed * power 10 a.scale

instance (a b : Decimal) : Decidable (Same a b) := inferInstanceAs (Decidable (_ = _))

/-! ## Fitting exact results -/

/-- The decimal nearest to `num / den`, a tie going to the even mantissa, with the most fraction
digits up to `scale` that leave the mantissa 96 bits. -/
def fit? (negative : Bool) (num den : Nat) : (scale : Nat) → scale ≤ 28 → Option Decimal
  | 0, h =>
    let mantissa := roundDiv .toEven num den
    if hm : mantissa < 79228162514264337593543950336 then some ⟨negative, mantissa, 0, hm, h⟩
    else none
  | scale + 1, h =>
    let mantissa := roundDiv .toEven (num * power 10 (scale + 1)) den
    if hm : mantissa < 79228162514264337593543950336 then
      some ⟨negative, mantissa, scale + 1, hm, h⟩
    else fit? negative num den scale (Nat.le_of_succ_le h)

/-- The sum, with the fraction digits of the operand that has more; overflow if it is too large. -/
def add? (a b : Decimal) : Option Decimal :=
  if a.isZero then some b
  else if b.isZero then some a
  else
    let sum := a.signed * power 10 b.scale + b.signed * power 10 a.scale
    fit? (sum < 0) sum.natAbs (power 10 (a.scale + b.scale)) (max a.scale b.scale)
      (Nat.max_le.2 ⟨a.scale_le, b.scale_le⟩)

/-- The product, with the fraction digits of both operands. -/
def mul? (a b : Decimal) : Option Decimal :=
  if a.isZero ∨ b.isZero then some zero
  else
    fit? (a.negative != b.negative) (a.mantissa * b.mantissa) (power 10 (a.scale + b.scale))
      (min 28 (a.scale + b.scale)) (Nat.min_le_left _ _)

/-- The quotient by a divisor that is not zero, with the most fraction digits there are. -/
def div? (a b : Decimal) : Option Decimal :=
  if a.isZero then some zero
  else
    fit? (a.negative != b.negative) (a.mantissa * power 10 b.scale) (b.mantissa * power 10 a.scale)
      maxScale maxScale_le

/-! ## Fraction digits -/

theorem roundDiv_power_lt {mantissa places : Nat} (hm : mantissa < 79228162514264337593543950336)
    (hp : 1 ≤ places) :
    roundDiv .awayFromZero mantissa (power 10 places) < 79228162514264337593543950336 := by
  have hdiv : mantissa / power 10 places ≤ mantissa / 10 :=
    Nat.div_le_div_left (power_le 10 hp (by decide)) (by decide)
  simp only [roundDiv]
  split <;> omega

/-- Rounds to at most `places` fraction digits, half a unit going away from zero. -/
def round (places : Nat) (d : Decimal) : Decimal :=
  if h : places < d.scale then
    { d with
      mantissa := roundDiv .awayFromZero d.mantissa (power 10 (d.scale - places))
      scale := places
      mantissa_lt := roundDiv_power_lt d.mantissa_lt (Nat.sub_pos_of_lt h)
      scale_le := Nat.le_trans (Nat.le_of_lt h) d.scale_le }
  else d

theorem round_scale_le (places : Nat) (d : Decimal) : (d.round places).scale ≤ places := by
  unfold round
  split
  · exact Nat.le_refl places
  · exact Nat.le_of_not_lt ‹_›

/-- The mantissa and scale without trailing fraction zeros. -/
def strip (mantissa : Nat) : Nat → Nat × Nat
  | 0 => (mantissa, 0)
  | scale + 1 => if mantissa % 10 = 0 then strip (mantissa / 10) scale else (mantissa, scale + 1)

theorem strip_le (mantissa scale : Nat) :
    (strip mantissa scale).1 ≤ mantissa ∧ (strip mantissa scale).2 ≤ scale := by
  induction scale generalizing mantissa with
  | zero => simp [strip]
  | succ scale ih =>
    simp only [strip]
    split
    · have := ih (mantissa / 10)
      omega
    · simp

/-- The same value without trailing fraction zeros; zero has neither scale nor sign. -/
def normalize (d : Decimal) : Decimal :=
  if d.isZero then zero
  else
    have h := strip_le d.mantissa d.scale
    { d with
      mantissa := (strip d.mantissa d.scale).1
      scale := (strip d.mantissa d.scale).2
      mantissa_lt := Nat.lt_of_le_of_lt h.1 d.mantissa_lt
      scale_le := Nat.le_trans h.2 d.scale_le }

end Decimal

end ReportQuery
