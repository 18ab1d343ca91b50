import ReportQuery.Decimal.Text
import ReportQuery.Display.Locale

/-!
# Numbers for readers

A number is rounded to the most fraction digits that may be shown, loses its trailing zeros down to
the fewest that have to be, and has its integer digits in groups of three. A minus sign stands only
before a number that is not zero as it is shown.
-/

namespace ReportQuery.Locale

/-- The digits with a separator before every third one from the right. -/
def groupThrees (separator : Char) : List Char → List Char
  | [] => []
  | c :: rest =>
    if rest ≠ [] ∧ rest.length % 3 = 0 then c :: separator :: groupThrees separator rest
    else c :: groupThrees separator rest

/-- The integer digits, in groups if there are enough of them. -/
def integerText (l : Locale) (digits : List Char) : List Char :=
  if digits.length < l.minGrouping then digits else groupThrees l.group digits

/-- Fraction digits without trailing zeros, but with at least `least` digits. -/
def fitFraction (least : Nat) (fraction : List Char) : List Char :=
  let digits := Text.trimTrailing '0' fraction
  digits ++ List.replicate (least - digits.length) '0'

def fractionText (l : Locale) (digits : List Char) : List Char :=
  if digits = [] then [] else l.point :: digits

def magnitudeText (l : Locale) (least : Nat) (d : Decimal) : List Char :=
  let (whole, fraction) := d.digitParts
  l.integerText whole ++ l.fractionText (fitFraction least fraction)

/-- A number with at least `least` and at most `most` fraction digits. -/
def number (l : Locale) (least most : Nat) (d : Decimal) : List Char :=
  let shown := d.round most
  if shown.negative && !shown.isZero then '-' :: l.magnitudeText least shown
  else l.magnitudeText least shown

end ReportQuery.Locale
