import ReportQuery.Number.Binary64
import ReportQuery.Text.Digits

/-!
# Shortest digits

The fewest decimal digits that read back as a given number: the numbers that round to it form an
interval, and the first decimal grid with a point in that interval gives the digits. Of two points
the nearer one counts, and of two equally near ones the even one.
-/

namespace ReportQuery.Binary64

/-- Decimal digits as a whole number, with the power of ten that they count. -/
structure Digits where
  digits : Nat
  exponent : Int
deriving DecidableEq, Repr

/-- The reals that round to a number: twice, four times and twice its magnitude plus and minus a
step, all over `4 * 2 ^ 1074`. The ends belong to it when the significand is even. -/
structure Interval where
  low : Nat
  mid : Nat
  high : Nat
  closed : Bool

def interval (x : Binary64) : Interval where
  low := (4 * x.significand - if x.significand = 4503599627370496 ∧ x.scale ≠ 0 then 1 else 2) *
    power 2 x.scale
  mid := 4 * x.significand * power 2 x.scale
  high := (4 * x.significand + 2) * power 2 x.scale
  closed := x.significand % 2 = 0

/-- `10 ^ exponent * 4 * 2 ^ 1074` as numerator and denominator. -/
def gridUnit (exponent : Int) : Nat × Nat :=
  (4 * smallest * power 10 exponent.toNat, power 10 (-exponent).toNat)

/-- The grid point `digits * 10 ^ exponent` lies in the interval. -/
def Interval.holds (i : Interval) (digits : Nat) (exponent : Int) : Bool :=
  let (num, den) := gridUnit exponent
  let point := digits * num
  if i.closed then i.low * den ≤ point && point ≤ i.high * den
  else i.low * den < point && point < i.high * den

/-- The grid point in the interval that is nearest to its middle. -/
def Interval.onGrid? (i : Interval) (exponent : Int) : Option Digits :=
  let (num, den) := gridUnit exponent
  let below := i.mid * den / num
  let rounded := roundDiv .toEven (i.mid * den) num
  let other := if rounded = below then below + 1 else below
  if i.holds rounded exponent && rounded ≠ 0 then some ⟨rounded, exponent⟩
  else if i.holds other exponent && other ≠ 0 then some ⟨other, exponent⟩
  else none

/-- The power of ten of the leading digit of `num / den`, for a positive quotient. -/
def leadingExponent (num den : Nat) : Int :=
  if den ≤ num then ((Text.natDigits (num / den)).length : Int) - 1
  else
    let guess := (Text.natDigits (den / num)).length
    if den ≤ num * power 10 (guess - 1) then 1 - (guess : Int) else -(guess : Int)

def strip (digits : Nat) (exponent : Int) : Digits :=
  if h : digits % 10 = 0 ∧ digits ≠ 0 then strip (digits / 10) (exponent + 1)
  else ⟨digits, exponent⟩
termination_by digits
decreasing_by omega

/-- The fewest digits that read back as the magnitude of `x`; seventeen always do. -/
def shortest (x : Binary64) : Digits :=
  if x.isZero then ⟨0, 0⟩
  else
    let i := x.interval
    let lead := leadingExponent i.mid (4 * smallest)
    let found := (List.range 17).findSome? fun (n : Nat) => i.onGrid? (lead - n)
    match found with
    | some d => strip d.digits d.exponent
    | none => ⟨0, 0⟩

/-! ## Layout -/

/-- Digits with a point after the first `places` of them. -/
def withPoint (digits : List Char) (places : Nat) : List Char :=
  digits.take places ++ '.' :: digits.drop places

/-- Positional while the leading digit counts a power of ten from -5 to 15, with a point always;
else one digit before the point, and an exponent whose sign is always written. -/
def layout (d : Digits) : List Char :=
  let digits := Text.natDigits d.digits
  let point : Int := digits.length + d.exponent
  if 0 ≤ d.exponent ∧ point ≤ 16 then
    digits ++ List.replicate d.exponent.toNat '0' ++ ".0".toList
  else if 0 < point ∧ point ≤ 16 then withPoint digits point.toNat
  else if -5 < point ∧ point ≤ 0 then "0.".toList ++ List.replicate (-point).toNat '0' ++ digits
  else
    let mantissa := if digits.length = 1 then digits else withPoint digits 1
    let exponent := point - 1
    mantissa ++ 'e' :: (if exponent < 0 then '-' else '+') :: Text.natDigits exponent.natAbs

/-- The text of a number: its shortest digits, laid out. -/
def toText (x : Binary64) : List Char :=
  let text := if x.isZero then "0.0".toList else layout x.shortest
  if x.negative then '-' :: text else text

end ReportQuery.Binary64
