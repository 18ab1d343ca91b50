import ReportQuery.Proofs.Formula.Reading

/-!
# The value of a formula

What a formula is worth on a row, by its plain tree: one checked operation for each operator. The
expression of the formula has long sums and products instead, and is worth the same.

Main statements: `evaluate_toExpr`, `evaluate_of_ofText`.
-/

namespace ReportQuery

namespace Formula

/-- The value of the plain tree. A divisor goes before its dividend, which does not count if the
divisor is zero. -/
def value (row : Document) : Formula → Except CalculationError Decimal
  | literal d => .ok d
  | field path => Document.decimal row path
  | negation operand => (operand.value row).map Decimal.neg
  | binary .plus left right => do
    let a ← left.value row
    let b ← right.value row
    Expr.orOverflow (a.add? b)
  | binary .minus left right => do
    let a ← left.value row
    let b ← right.value row
    Expr.orOverflow (a.add? b.neg)
  | binary .times left right => do
    let a ← left.value row
    let b ← right.value row
    Expr.orOverflow (a.mul? b)
  | binary .over left right => do
    let b ← right.value row
    if b.isZero then return .zero
    let a ← left.value row
    Expr.orOverflow (a.div? b)

end Formula

/-! ## Sums and products -/

namespace Expr

variable {row : Document}

/-- The value after one more operand. -/
def evaluateStep (row : Document) (op : Decimal → Decimal → Option Decimal) (operand : Expr)
    (acc : Decimal) : Except CalculationError Decimal := do
  let d ← evaluate row operand
  orOverflow (op acc d)

theorem evaluateFold_cons (op : Decimal → Decimal → Option Decimal) (acc : Decimal)
    (operand : Expr) (rest : List Expr) :
    evaluateFold row op acc (operand :: rest) =
      evaluateStep row op operand acc >>= fun acc => evaluateFold row op acc rest := by
  rw [evaluateFold, evaluateStep, bind_assoc]

theorem evaluateFold_append (op : Decimal → Decimal → Option Decimal) (acc : Decimal)
    (operands : List Expr) (operand : Expr) :
    evaluateFold row op acc (operands ++ [operand]) =
      evaluateFold row op acc operands >>= evaluateStep row op operand := by
  induction operands generalizing acc with
  | nil =>
    rw [List.nil_append, evaluateFold_cons]
    exact bind_pure _
  | cons first operands ih => simp only [List.cons_append, evaluateFold_cons, ih, bind_assoc]

theorem evaluate_sum_pair (left right : Expr) :
    (sum [left, right]).evaluate row =
      left.evaluate row >>= evaluateStep row Decimal.add? right := by
  -- A sum begins with its first term itself: adding that to zero changes nothing.
  have hzero : evaluateStep row Decimal.add? left .zero = left.evaluate row := bind_pure _
  rw [evaluate, evaluateFold_cons, hzero]
  exact congrArg _ (funext fun d => evaluateFold_append _ d [] right)

theorem evaluate_product_pair (left right : Expr) :
    (product [left, right]).evaluate row =
      left.evaluate row >>= evaluateStep row Decimal.mul? right := by
  rw [evaluate, evaluateProduct]
  exact congrArg _ (funext fun d => evaluateFold_append _ d [] right)

end Expr

/-! ## Chains -/

namespace Formula

open ReportQuery.Expr

variable {row : Document}

theorem evaluate_combine_plus (left right : Expr) :
    (combine .plus left right).evaluate row =
      left.evaluate row >>= evaluateStep row Decimal.add? right := by
  cases left with
  | sum terms =>
    rw [combine, evaluate, evaluate]
    exact evaluateFold_append _ .zero terms right
  | literal _ | field _ | product _ | quotient _ _ | negation _ => exact evaluate_sum_pair _ right

theorem combine_minus (left right : Expr) :
    combine .minus left right = combine .plus left (.negation right) := by
  cases left <;> rfl

-- An empty product on the left would be zero, and not one.
theorem evaluate_combine_times {left : Expr} (h : left ≠ .product []) (right : Expr) :
    (combine .times left right).evaluate row =
      left.evaluate row >>= evaluateStep row Decimal.mul? right := by
  match left with
  | .product (first :: factors) =>
    rw [combine, evaluate, evaluate, List.cons_append, evaluateProduct, evaluateProduct, bind_assoc]
    exact congrArg _ (funext fun d => evaluateFold_append _ d factors right)
  | .product [] => exact absurd rfl h
  | .literal _ | .field _ | .sum _ | .quotient _ _ | .negation _ =>
    exact evaluate_product_pair _ right

theorem toExpr_ne_empty_product (formula : Formula) : formula.toExpr ≠ .product [] := by
  cases formula with
  | literal _ | field _ | negation _ => simp [toExpr]
  | binary op left right =>
    rw [toExpr]
    cases op <;> cases left.toExpr <;> simp [combine]

/-- Long sums and products change no value and no error. -/
theorem evaluate_toExpr (row : Document) (formula : Formula) :
    formula.toExpr.evaluate row = formula.value row := by
  induction formula with
  | literal d => rw [toExpr, evaluate, value]
  | field path => rw [toExpr, evaluate, value]
  | negation operand ih => rw [toExpr, evaluate, value, ih]
  | binary op left right ihl ihr =>
    rw [toExpr]
    cases op with
    | plus =>
      rw [evaluate_combine_plus, ihl, value]
      exact congrArg _ (funext fun a => by rw [evaluateStep, ihr])
    | minus =>
      rw [combine_minus, evaluate_combine_plus, ihl, value]
      refine congrArg _ (funext fun a => ?_)
      rw [evaluateStep, evaluate, ihr]
      cases right.value row <;> rfl
    | times =>
      rw [evaluate_combine_times left.toExpr_ne_empty_product, ihl, value]
      exact congrArg _ (funext fun a => by rw [evaluateStep, ihr])
    | «over» => rw [combine, evaluate, ihl, ihr, value]

/-- The expression of a text is worth what the tree of its derivation is worth, on every row. -/
theorem evaluate_of_ofText {text : String} {formula : Formula} (h : ofText text = .ok formula) :
    ∃ d : Derivation, d.text = text.toList ∧
      ∀ row, formula.toExpr.evaluate row = d.formula.value row := by
  obtain ⟨d, htext, rfl⟩ := ofText_eq_ok_iff.1 h
  exact ⟨d, htext, fun row => evaluate_toExpr row d.formula⟩

theorem evaluate_of_ofText_of_parentheses :
    let one : Decimal := ⟨false, 1, 0, by decide, by decide⟩
    let formula : Formula := .binary .minus (.binary .plus (.literal one) (.field "a")) (.field "b")
    ofText "(1 + $a) - $b" = .ok formula ∧
      formula.toExpr = .sum [.literal one, .field "a", .negation (.field "b")] ∧
      ∃ d : Derivation, d.text = "(1 + $a) - $b".toList ∧
        ∀ row, formula.toExpr.evaluate row = d.formula.value row := by
  intro one formula
  have hread : ofText "(1 + $a) - $b" = .ok formula := by cbv
  exact ⟨hread, rfl, evaluate_of_ofText hread⟩

end Formula

end ReportQuery
