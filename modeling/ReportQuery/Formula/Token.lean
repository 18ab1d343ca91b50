import ReportQuery.Formula.Basic

/-!
# Formula tokens

A formula is cut into numbers, fields, operators and parentheses; blanks between them do not count.
A number has digits on both sides of its point, and a field is a `$` with letters, digits,
underscores and points after it.
-/

namespace ReportQuery.Formula

/-- Blanks that may stand between tokens. -/
def isBlank (c : Char) : Bool := c = ' ' || c = '\t' || c = '\r' || c = '\n'

def isNameChar (c : Char) : Bool :=
  Text.isDigit c || ('a' ≤ c && c ≤ 'z') || ('A' ≤ c && c ≤ 'Z') || c = '_' || c = '.'

inductive Token where
  | number (value : Decimal)
  | field (path : String)
  | op (op : BinaryOp)
  | opening
  | closing
deriving DecidableEq

/-- The digits of a number at the start of a text: a fraction belongs to it when a digit follows the
point. -/
def numeral (text : List Char) : List Char :=
  let whole := text.takeWhile Text.isDigit
  match text.dropWhile Text.isDigit with
  | '.' :: rest =>
    let fraction := rest.takeWhile Text.isDigit
    if fraction = [] then whole else whole ++ '.' :: fraction
  | _ => whole

theorem numeral_ne_nil {c : Char} (text : List Char) (h : Text.isDigit c = true) :
    numeral (c :: text) ≠ [] := by
  simp only [numeral, List.takeWhile_cons, h, if_true]
  split
  · split <;> simp
  · simp

def symbol? (c : Char) : Option Token :=
  if c = '+' then some (.op .plus)
  else if c = '-' then some (.op .minus)
  else if c = '*' then some (.op .times)
  else if c = '/' then some (.op .over)
  else if c = '(' then some .opening
  else if c = ')' then some .closing
  else none

/-- Cuts a text into tokens; none if some part of it is no token. -/
def tokens? (text : List Char) : Option (List Token) :=
  match text with
  | [] => some []
  | c :: rest =>
    if isBlank c then tokens? rest
    else if Text.isDigit c then do
      let spelled := numeral (c :: rest)
      let value ← Decimal.ofText? spelled
      return .number value :: (← tokens? ((c :: rest).drop spelled.length))
    else if c = '$' then
      let name := rest.takeWhile isNameChar
      if name = [] then none
      else (tokens? (rest.dropWhile isNameChar)).map fun ts => .field (String.ofList name) :: ts
    else do return (← symbol? c) :: (← tokens? rest)
termination_by text.length
decreasing_by
  · simp
  · have := List.length_pos_iff.2 (numeral_ne_nil rest ‹Text.isDigit c = true›)
    simp only [List.length_drop, List.length_cons]
    omega
  · have := (List.dropWhile_sublist (l := rest) isNameChar).length_le
    simp only [List.length_cons]
    omega
  · simp

end ReportQuery.Formula
