import ReportQuery.Decimal.Json
import ReportQuery.Stage
import ReportQuery.Text.Blank

/-!
# Expressions

Arithmetic over the fields of a row: literals, fields, sums, products, quotients and negation. An
expression is written as JSON with the store's operators. A missing field, null and blank text count
as zero, and so does a quotient by zero; any result out of range is an error.
-/

namespace ReportQuery

inductive Expr where
  | literal (value : Decimal)
  | field (path : String)
  | sum (terms : List Expr)
  | product (factors : List Expr)
  | quotient (dividend divisor : Expr)
  | negation (operand : Expr)

inductive CalculationError where
  /-- The formula is not arithmetic. -/
  | malformed (position : Nat) (problem : String)
  /-- A field holds something that is not a number. -/
  | notNumeric (path : String)
  | invalidNumber (text : String)
  | overflow
  /-- There is neither formula nor expression. -/
  | empty
deriving DecidableEq, Repr

namespace CalculationError

def message : CalculationError → String
  | malformed position problem =>
    "syntax error at position " ++ String.ofList (Text.natDigits position) ++ ": " ++ problem
  | notNumeric path => "field `" ++ path ++ "` is not numeric"
  | invalidNumber text => "invalid number `" ++ text ++ "`"
  | overflow => "arithmetic overflow"
  | empty => "calculation has neither formula nor expression"

end CalculationError

/-! ## Fields of a row -/

namespace Document

/-- The place in an array that a segment names. -/
def index? (segment : List Char) : Option Nat := Text.readNat? (Text.trimPlus segment)

def follow? : List (List Char) → Json → Option Json
  | [], value => some value
  | segment :: rest, .object fields =>
    (Entries.get? (String.ofList segment) fields).bind (follow? rest)
  | segment :: rest, .array items =>
    (index? segment).bind fun i => (items[i]?).bind (follow? rest)
  | _ :: _, _ => none

/-- The value of a path: that of the field named like the whole path, or else the one that the
segments between its points lead to. -/
def lookup? (row : Document) (path : String) : Option Json :=
  (Entries.get? path row).or (follow? (Text.splitAll '.' path.toList) (.object row))

def decimalOf (path : String) : Option Json → Except CalculationError Decimal
  | none | some .null => .ok .zero
  | some (.number n) =>
    match Decimal.ofNumber? n with
    | some d => .ok d
    | none => .error (.invalidNumber (String.ofList n.toText))
  | some (.string s) =>
    let text := Text.trim s.toList
    if text = [] then .ok .zero
    else
      match Decimal.ofText? text with
      | some d => .ok d
      | none => .error (.notNumeric path)
  | some _ => .error (.notNumeric path)

def decimal (row : Document) (path : String) : Except CalculationError Decimal :=
  decimalOf path (lookup? row path)

end Document

namespace Expr

/-! ## Evaluation -/

def orOverflow : Option Decimal → Except CalculationError Decimal
  | some d => .ok d
  | none => .error .overflow

mutual

def evaluate (row : Document) : Expr → Except CalculationError Decimal
  | literal d => .ok d
  | field path => Document.decimal row path
  | sum terms => evaluateFold row Decimal.add? .zero terms
  | product factors => evaluateProduct row factors
  | quotient dividend divisor => do
    let d ← evaluate row divisor
    if d.isZero then return .zero else orOverflow ((← evaluate row dividend).div? d)
  | negation operand => (evaluate row operand).map Decimal.neg

/-- The product of factors; an empty one is zero. -/
def evaluateProduct (row : Document) : List Expr → Except CalculationError Decimal
  | [] => .ok .zero
  | factor :: rest => do evaluateFold row Decimal.mul? (← evaluate row factor) rest

/-- The operands taken one after another, each by the operation with the result before it. -/
def evaluateFold (row : Document) (op : Decimal → Decimal → Option Decimal) (acc : Decimal) :
    List Expr → Except CalculationError Decimal
  | [] => .ok acc
  | operand :: rest => do
    let d ← evaluate row operand
    evaluateFold row op (← orOverflow (op acc d)) rest

end

/-! ## JSON form -/

def ofText? (text : String) : Option Expr :=
  match text.toList with
  | '$' :: c :: path => some (.field (String.ofList (c :: path)))
  | chars => (Decimal.ofText? (Text.trim chars)).map .literal

/-- The expression of an operator and its operands. -/
def ofOperator? (operator : String) (operands : List Expr) : Option Expr :=
  if operator = "$add" then some (.sum operands)
  else if operator = "$multiply" then some (.product operands)
  else if operator = "$divide" then
    match operands with
    | [dividend, divisor] => some (.quotient dividend divisor)
    | _ => none
  else none

mutual

/-- The expression that a value holds; none if any part of it is something else. -/
def ofJson? : Json → Option Expr
  | .number n => (Decimal.ofNumber? n).map .literal
  | .string text => ofText? text
  | .object [(operator, operand)] => (operandsOf? operand).bind (ofOperator? operator)
  | _ => none

/-- The operands in an array, or a value that is the only operand. -/
def operandsOf? : Json → Option (List Expr)
  | .array items => ofItems? items
  | .number n => (Decimal.ofNumber? n).map fun d => [.literal d]
  | .string text => (ofText? text).map fun e => [e]
  | .object [(operator, operand)] =>
    ((operandsOf? operand).bind (ofOperator? operator)).map fun e => [e]
  | _ => none

def ofItems? : List Json → Option (List Expr)
  | [] => some []
  | item :: rest => do return (← ofJson? item) :: (← ofItems? rest)

end

/-- The JSON result of an expression on a row. A value that is no expression is its own result. -/
def evaluateJson (row : Document) (value : Json) : Except CalculationError Json :=
  match ofJson? value with
  | some e => (e.evaluate row).map Decimal.toJson
  | none => .ok value

end Expr

end ReportQuery
