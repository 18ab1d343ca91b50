import ReportQuery.Rows

/-!
# The fields that a calculation reads

A reference is looked up under its whole path and else under the first segment of it. A calculation
gives the same on all rows where its references lead to the same values.

Main statements: `Document.lookup?_congr`, `Calculation.value_congr`.
-/

namespace ReportQuery

/-! ## Paths -/

/-- What stands before the first point of a path. -/
def firstSegment (path : String) : String := String.ofList (Text.before '.' path.toList)

namespace Text

theorem splitAll_eq_cons (separator : Char) (text : List Char) :
    ∃ rest, splitAll separator text = before separator text :: rest := by
  induction text with
  | nil => exact ⟨[], rfl⟩
  | cons c text ih =>
    obtain ⟨rest, hrest⟩ := ih
    unfold before at hrest ⊢
    rw [splitAll, List.takeWhile_cons]
    by_cases h : c = separator
    · simp [h]
    · simp [h, hrest]

end Text

namespace Document

open Entries

variable {row other : Document}

theorem lookup?_congr {path : String} (h : get? path row = get? path other)
    (hfirst : get? (firstSegment path) row = get? (firstSegment path) other) :
    lookup? row path = lookup? other path := by
  obtain ⟨rest, hrest⟩ := Text.splitAll_eq_cons '.' path.toList
  unfold firstSegment at hfirst
  unfold lookup?
  rw [h, hrest, follow?, follow?, hfirst]

theorem lookup?_of_get? {path : String} {value : Json} (h : get? path row = some value) :
    lookup? row path = some value := by
  rw [lookup?, h, Option.some_or]

end Document

/-! ## Expressions -/

namespace Expr

mutual

/-- The paths of the fields in an expression. -/
def references : Expr → List String
  | literal _ => []
  | field path => [path]
  | sum terms => listReferences terms
  | product factors => listReferences factors
  | quotient dividend divisor => dividend.references ++ divisor.references
  | negation operand => operand.references

def listReferences : List Expr → List String
  | [] => []
  | e :: rest => e.references ++ listReferences rest

end

/-- The references of an expression lead to the same values in both rows. -/
def SameFields (row other : Document) (references : List String) : Prop :=
  ∀ path ∈ references, Document.lookup? row path = Document.lookup? other path

theorem sameFields_append {row other : Document} {references more : List String} :
    SameFields row other (references ++ more) ↔
      SameFields row other references ∧ SameFields row other more :=
  List.forall_mem_append

variable {row other : Document}

mutual

theorem evaluate_congr :
    ∀ e : Expr, SameFields row other e.references → e.evaluate row = e.evaluate other
  | literal _, _ => rfl
  | field path, h => by
    rw [evaluate, evaluate, Document.decimal, h path List.mem_cons_self, Document.decimal]
  | sum terms, h => by
    rw [evaluate, evaluate, evaluateFold_congr terms h]
  | product [], _ => rfl
  | product (factor :: rest), h => by
    obtain ⟨hfactor, hrest⟩ := sameFields_append.1 h
    rw [evaluate, evaluate, evaluateProduct, evaluateProduct, evaluate_congr factor hfactor]
    simp only [evaluateFold_congr rest hrest]
  | quotient dividend divisor, h => by
    obtain ⟨hdividend, hdivisor⟩ := sameFields_append.1 h
    rw [evaluate, evaluate, evaluate_congr divisor hdivisor, evaluate_congr dividend hdividend]
  | negation operand, h => by rw [evaluate, evaluate, evaluate_congr operand h]

theorem evaluateFold_congr : ∀ operands : List Expr,
    SameFields row other (listReferences operands) →
    ∀ op acc, evaluateFold row op acc operands = evaluateFold other op acc operands
  | [], _, _, _ => rfl
  | operand :: rest, h, op, acc => by
    obtain ⟨hoperand, hrest⟩ := sameFields_append.1 h
    rw [evaluateFold, evaluateFold, evaluate_congr operand hoperand]
    simp only [evaluateFold_congr rest hrest]

end

end Expr

/-! ## Calculations -/

namespace Calculation

/-- The expression of a calculation: its formula, or else what its JSON expression stands for. -/
def expr? (c : Calculation) : Option Expr :=
  match c.formula, c.expression with
  | some text, _ => (Formula.ofText text).toOption.map Formula.toExpr
  | none, some expression => Expr.ofJson? expression
  | none, none => none

def references (c : Calculation) : List String := (c.expr?.map Expr.references).getD []

theorem evaluate_congr {row other : Document} {c : Calculation}
    (h : Expr.SameFields row other c.references) : c.evaluate row = c.evaluate other := by
  obtain ⟨formula, expression⟩ := c
  unfold references expr? at h
  unfold evaluate
  cases formula with
  | some text =>
    simp only at h ⊢
    cases hformula : Formula.ofText text with
    | error reason => rfl
    | ok formula =>
      rw [hformula] at h
      have heq := Expr.evaluate_congr formula.toExpr h
      simp only [bind, Except.bind, heq]
  | none =>
    cases expression with
    | none => rfl
    | some expression =>
      simp only at h ⊢
      unfold Expr.evaluateJson
      cases hexpr : Expr.ofJson? expression with
      | none => rfl
      | some e =>
        rw [hexpr] at h
        simp only [Expr.evaluate_congr e h]

theorem value_congr {row other : Document} {c : Calculation}
    (h : Expr.SameFields row other c.references) : c.value row = c.value other := by
  rw [value, value, evaluate_congr h]

end Calculation

end ReportQuery
