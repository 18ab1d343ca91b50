import ReportQuery.Json.Decode
import ReportQuery.Json.Printer
import ReportQuery.Stage

/-!
# Pipelines as JSON

A pipeline is written as an array of its stages in the store's own form, and loaded from one. A stage
by itself is loaded from any source of a value and written as an object of one field.
-/

namespace ReportQuery

namespace Stage

/-- Loads a stage. The problem of a value that is none is told in the words of stages. -/
def load (value : Json) : Except Json.DecodeError Stage :=
  (Stage.ofJson value).mapError fun reason => .custom reason.message

/-- Loads a stage from the value that a source spells. -/
def decode : Json.Decoder Stage := fun source => do load (← Json.Decoder.value source)

/-- The compact text of a stage, written field by field. -/
def toText (stage : Stage) : String :=
  String.ofList
    ('\x7b' :: Json.quoted stage.operator ++ ':' :: Json.compact stage.body ++ ['\x7d'])

end Stage

namespace Pipeline

def toJson (stages : List Stage) : Json := .array (stages.map Stage.toJson)

def ofJson : Json → Except Json.DecodeError (List Stage)
  | .array docs => docs.mapM Stage.load
  | value => .error (Json.Decoder.unexpected "a sequence" (.ofJson value))

end Pipeline

end ReportQuery
