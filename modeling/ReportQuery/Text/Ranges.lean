/-!
# Ranges of code points

Properties of characters as closed ranges of code points, in ascending order and apart.
-/

namespace ReportQuery.Text

abbrev Ranges := List (Nat × Nat)

/-- Whether one of the ranges holds a code point. The search ends at the first range above it. -/
def inRanges (code : Nat) : Ranges → Bool
  | [] => false
  | (first, last) :: rest => first ≤ code && (code ≤ last || inRanges code rest)

end ReportQuery.Text
