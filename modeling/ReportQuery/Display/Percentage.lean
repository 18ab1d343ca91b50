import ReportQuery.Decimal.Text

/-!
# Percentages

A ratio times one hundred, with a fixed number of fraction digits, no groups and a percent sign. All
locales write it alike.
-/

namespace ReportQuery.Decimal

/-- The decimal's digits with exactly `places` fraction digits, for a decimal that has no more. -/
def textWithPlaces (places : Nat) (d : Decimal) : List Char :=
  let shown := if d.isZero then zero else d
  let point := if shown.scale = 0 ∧ places ≠ 0 then ['.'] else []
  shown.toText ++ point ++ List.replicate (places - shown.scale) '0'

/-- The text of a ratio as a percentage; none if it is too large. -/
def percentage? (places : Nat) (ratio : Decimal) : Option (List Char) :=
  (ratio.mul? hundred).map fun d => textWithPlaces places (d.round places) ++ ['%']

end ReportQuery.Decimal
