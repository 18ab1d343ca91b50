import ReportQuery.Json.Reader
import ReportQuery.Text.Split

/-!
# Assignments

A filter on the command line: `status=open`. The value is JSON if it reads as such, and else the
text as it stands.
-/

namespace ReportQuery.Command

structure Assignment where
  key : String
  value : Json
deriving DecidableEq

inductive AssignmentFault where
  | noEquals
  | emptyKey
deriving DecidableEq, Repr

def AssignmentFault.message (text : String) : AssignmentFault → String
  | noEquals => "expected KEY=VALUE, got `" ++ text ++ "`"
  | emptyKey => "empty filter key in `" ++ text ++ "`"

namespace Assignment

/-- The JSON value of a text, or the text as a string. -/
def valueOf (text : String) : Json :=
  match Json.ofText text with
  | .ok value => value
  | .error _ => .string text

/-- The assignment of a text: its key ends at the first equals sign. -/
def ofText (text : String) : Except AssignmentFault Assignment :=
  match Text.splitOnce ['='] text.toList with
  | none => .error .noEquals
  | some ([], _) => .error .emptyKey
  | some (key, value) => .ok ⟨String.ofList key, valueOf (String.ofList value)⟩

end Assignment

end ReportQuery.Command
