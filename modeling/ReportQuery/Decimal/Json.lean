import ReportQuery.Decimal.Text
import ReportQuery.Json.Basic

/-!
# Decimals and JSON numbers

A JSON number is read by its text. A decimal becomes a whole number when it is one of 64 bits with a
sign, and else a double.
-/

namespace ReportQuery.Decimal

/-- The decimal nearest to a double; none if it is too large. A double that is too small becomes a
zero with its sign. -/
def ofDouble? (x : Binary64) : Option Decimal :=
  (fit? x.negative x.magnitude Binary64.smallest maxScale maxScale_le).map fun d =>
    { d.normalize with negative := x.negative }

/-- The decimal of a JSON number. Doubles with too many fraction digits lose some. -/
def ofNumber? (n : Json.Number) : Option Decimal :=
  match ofText? n.toText, n with
  | some d, _ => some d
  | none, .double x => ofDouble? x
  | none, .integer _ _ => none

/-- The double of a decimal: the whole part and the fraction each as a double, their sum rounded to
the decimal's fraction digits. -/
def toDouble? (d : Decimal) : Option Binary64 := do
  let power := power 10 d.scale
  let whole ← Binary64.ofNat? (d.mantissa / power)
  let fraction ← Binary64.div? (← Binary64.ofNat? (d.mantissa % power)) (← Binary64.ofNat? power)
  let magnitude ←
    if d.scale = 0 ∨ fraction.isZero then some whole
    else do
      let sum ← Binary64.add? whole fraction
      let ten ← Binary64.tenTo? d.scale
      Binary64.div? (← Binary64.round? (← Binary64.mul? sum ten)) ten
  return if d.negative then magnitude.neg else magnitude

def FitsSigned64 (n : Int) : Prop := -9223372036854775808 ≤ n ∧ n < 9223372036854775808

instance (n : Int) : Decidable (FitsSigned64 n) := inferInstanceAs (Decidable (_ ∧ _))

def toJson (d : Decimal) : Json :=
  let d := d.normalize
  if h : d.scale = 0 ∧ FitsSigned64 d.signed then
    .number (.integer d.signed ⟨h.2.1, Int.lt_trans h.2.2 (by decide)⟩)
  else
    match d.toDouble? with
    | some x => .number (.double x)
    | none => .null

end ReportQuery.Decimal
