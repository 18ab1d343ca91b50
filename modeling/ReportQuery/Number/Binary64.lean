import ReportQuery.Number.Powers
import ReportQuery.Number.Rounding

/-!
# Binary floating point

The finite numbers of the IEEE 754 format with 64 bits, as exact values: a significand below `2 ^
53` times a power of two. Every operation is the exact result rounded to the nearest number, a tie
going to the even significand; a result beyond the largest number is no number.
-/

namespace ReportQuery

namespace Binary64

/-- The unit of the smallest numbers is `2 ^ -1074`. -/
def smallest : Nat := power 2 1074

/-- A significand with the unit `2 ^ (scale - 1074)`: as many bits as the format has, unless the
unit is the smallest. -/
def Canonical (significand scale : Nat) : Prop :=
  significand < 9007199254740992 ∧ scale ≤ 2045 ∧ (4503599627370496 ≤ significand ∨ scale = 0)

instance (significand scale : Nat) : Decidable (Canonical significand scale) :=
  inferInstanceAs (Decidable (_ ∧ _ ∧ _))

end Binary64

/-- A finite number, worth `significand * 2 ^ scale / 2 ^ 1074` with its sign. Zero has a sign too.
-/
structure Binary64 where
  negative : Bool
  significand : Nat
  scale : Nat
  canonical : Binary64.Canonical significand scale
deriving DecidableEq

namespace Binary64

def zero (negative : Bool) : Binary64 := ⟨negative, 0, 0, by decide⟩

def isZero (x : Binary64) : Bool := x.significand = 0

/-- The magnitude in units of `2 ^ -1074`. -/
def magnitude (x : Binary64) : Nat := x.significand * power 2 x.scale

/-- The scale of a quotient: the least that leaves fewer than 54 bits. -/
def scaleOf (num den : Nat) : Nat :=
  let guess := Nat.log2 num - Nat.log2 den - 53
  if den * power 2 (guess + 53) ≤ num then guess + 1 else guess

/-- The number nearest to `num / den` in units of `2 ^ -1074`, unless that is too large. -/
def ofScaled? (negative : Bool) (num den : Nat) : Option Binary64 :=
  let scale := scaleOf num den
  let rounded := roundDiv .toEven num (den * power 2 scale)
  let (significand, scale) :=
    if rounded = 9007199254740992 then (4503599627370496, scale + 1) else (rounded, scale)
  if h : Canonical significand scale then some ⟨negative, significand, scale, h⟩ else none

/-- The number nearest to `num / den` with a sign, unless that is too large. -/
def nearest? (negative : Bool) (num den : Nat) : Option Binary64 :=
  ofScaled? negative (num * smallest) den

def ofNat? (n : Nat) : Option Binary64 := nearest? false n 1

def neg (x : Binary64) : Binary64 := { x with negative := !x.negative }

def mul? (x y : Binary64) : Option Binary64 :=
  ofScaled? (x.negative != y.negative) (x.magnitude * y.magnitude) smallest

/-- A quotient by zero is no number. -/
def div? (x y : Binary64) : Option Binary64 :=
  if y.isZero then none
  else ofScaled? (x.negative != y.negative) (x.magnitude * smallest) y.magnitude

/-- The value in units of `2 ^ -1074`. -/
def value (x : Binary64) : Int := if x.negative then -(x.magnitude : Int) else x.magnitude

/-- A sum that cancels is a positive zero. -/
def add? (x y : Binary64) : Option Binary64 :=
  let sum := x.value + y.value
  if sum = 0 then some (zero (x.negative && y.negative)) else ofScaled? (sum < 0) sum.natAbs 1

/-- The nearest whole number, half a unit going away from zero. -/
def round? (x : Binary64) : Option Binary64 :=
  nearest? x.negative (roundDiv .awayFromZero x.magnitude smallest) 1

/-- The whole part, without the fraction. -/
def truncate (x : Binary64) : Int :=
  if x.negative then -((x.magnitude / smallest : Nat) : Int) else (x.magnitude / smallest : Nat)

def powerOfTen? (exponent : Nat) : Option Binary64 := nearest? false (power 10 exponent) 1

def maxPowerOfTen : Nat := 308

/-- The quotient by a power of ten. One by a power that is too large is taken in steps. -/
def overPowerOfTen? (x : Binary64) (exponent : Nat) : Option Binary64 := do
  if _ : exponent ≤ maxPowerOfTen then div? x (← powerOfTen? exponent)
  else if x.isZero then some x
  else overPowerOfTen? (← div? x (← powerOfTen? maxPowerOfTen)) (exponent - maxPowerOfTen)
termination_by exponent
decreasing_by simp only [maxPowerOfTen] at *; omega

/-- The product with a power of ten, or the quotient by one. -/
def timesPowerOfTen? (x : Binary64) (exponent : Int) : Option Binary64 :=
  if exponent < 0 then x.overPowerOfTen? exponent.natAbs
  else if exponent ≤ maxPowerOfTen then do mul? x (← powerOfTen? exponent.toNat)
  else if x.isZero then some x
  else none

/-- The product of `result` with a power, by repeated squaring of `base`. -/
def powTimes? (result base : Binary64) (exponent : Nat) : Option Binary64 := do
  let result ← if exponent % 2 = 1 then mul? result base else some result
  if h : exponent / 2 = 0 then some result
  else powTimes? result (← mul? base base) (exponent / 2)
termination_by exponent
decreasing_by omega

/-- Ten to a power, by repeated squaring, where each step rounds. -/
def tenTo? (exponent : Nat) : Option Binary64 := do
  powTimes? (← ofNat? 1) (← ofNat? 10) exponent

end Binary64

end ReportQuery
