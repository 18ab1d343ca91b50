import ReportQuery.Display.Value
import ReportQuery.Formula.Parser

/-!
# Finishing rows

Calculated fields and display texts. Calculations run in their order and see the results of those
before them; one that fails leaves null in its field. Then the formatted fields that can be shown
become text.
-/

namespace ReportQuery

namespace Calculation

/-- The result of a calculation on a row. A formula goes before an expression. -/
def evaluate (row : Document) (c : Calculation) : Except CalculationError Json :=
  match c.formula, c.expression with
  | some text, _ => do
    let formula ← Formula.ofText text
    return (← formula.toExpr.evaluate row).toJson
  | none, some expression => Expr.evaluateJson row expression
  | none, none => .error .empty

/-- The value of a calculated field: null if the calculation fails. -/
def value (row : Document) (c : Calculation) : Json :=
  match c.evaluate row with
  | .ok value => value
  | .error _ => .null

end Calculation

/-- The value of a formatted field: its text, or the value itself if it has none. -/
def Format.shown (f : Format) (value : Json) : Json :=
  match f.text? value with
  | some text => .string (String.ofList text)
  | none => value

namespace PostProcess

/-- Adds a calculated field to a row. -/
def calculateField (row : Document) (entry : String × Calculation) : Document :=
  Entries.insert entry.1 (entry.2.value row) row

/-- Shows a field of a row, if the row has it. -/
def formatField (row : Document) (entry : String × Format) : Document :=
  match Entries.get? entry.1 row with
  | some value => Entries.insert entry.1 (entry.2.shown value) row
  | none => row

def calculate (p : PostProcess) (row : Document) : Document :=
  p.calculations.foldl calculateField row

/-- The row with its formatted fields shown. -/
def format (p : PostProcess) (row : Document) : Document := p.formatting.foldl formatField row

def finishRow (p : PostProcess) (row : Document) : Document := p.format (p.calculate row)

/-- The finished rows. Where nothing is asked for they stay as they are. -/
def finish (p : PostProcess) (rows : List Document) : List Document :=
  if p.isEmpty then rows else rows.map p.finishRow

end PostProcess

end ReportQuery
