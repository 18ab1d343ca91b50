import ReportQuery.Expr

/-!
# Formulas

The tree of a formula such as `($qty * $price) - $discount`, and the expression it stands for:
chains of sums and of products become one sum and one product.
-/

namespace ReportQuery

inductive BinaryOp where
  | plus
  | minus
  | times
  | over
deriving DecidableEq, Repr

/-- A formula as it is spelled, without its parentheses. -/
inductive Formula where
  | literal (value : Decimal)
  | field (path : String)
  | negation (operand : Formula)
  | binary (op : BinaryOp) (left right : Formula)
deriving DecidableEq

namespace Formula

/-- The expression of an operation. A sum or product on the left takes the right operand in. -/
def combine : BinaryOp → Expr → Expr → Expr
  | .plus, .sum terms, right => .sum (terms ++ [right])
  | .plus, left, right => .sum [left, right]
  | .minus, .sum terms, right => .sum (terms ++ [.negation right])
  | .minus, left, right => .sum [left, .negation right]
  | .times, .product factors, right => .product (factors ++ [right])
  | .times, left, right => .product [left, right]
  | .over, left, right => .quotient left right

def toExpr : Formula → Expr
  | literal d => .literal d
  | field path => .field path
  | negation operand => .negation operand.toExpr
  | binary op left right => combine op left.toExpr right.toExpr

end Formula

end ReportQuery
