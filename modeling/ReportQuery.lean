import ReportQuery.Command.Folder
import ReportQuery.Config.Edit
import ReportQuery.Config.Encode
import ReportQuery.Main
import ReportQuery.Proofs.Calendar.DayShift
import ReportQuery.Proofs.Config.LookupForms
import ReportQuery.Proofs.Config.Reloading
import ReportQuery.Proofs.Display.Currency
import ReportQuery.Proofs.Display.Date
import ReportQuery.Proofs.Display.Percentage
import ReportQuery.Proofs.Execution
import ReportQuery.Proofs.Expr.JsonForm
import ReportQuery.Proofs.Expr.WholeNumbers
import ReportQuery.Proofs.Filter.DateRange
import ReportQuery.Proofs.Filter.Keys
import ReportQuery.Proofs.Filter.Settlement
import ReportQuery.Proofs.Formula.Evaluation
import ReportQuery.Proofs.Formula.Unambiguous
import ReportQuery.Proofs.Pipeline.Clock
import ReportQuery.Proofs.Pipeline.DeclaredOrder
import ReportQuery.Proofs.Pipeline.Failure
import ReportQuery.Proofs.Pipeline.GroupBody
import ReportQuery.Proofs.Pipeline.Reloading
import ReportQuery.Proofs.Placeholder.Rewriting
import ReportQuery.Proofs.Placeholder.Shifting
import ReportQuery.Proofs.Rows.Frame
import ReportQuery.Proofs.Rows.Independence
import ReportQuery.Proofs.Rows.Integers
