import ReportQuery.Json.Basic
import ReportQuery.Text.Digits

/-!
# Pipeline stages

One step of a store's pipeline. The kinds that the assembly places are told apart; any other is kept
with its operator. A stage is written as an object with its operator as the only key.
-/

namespace ReportQuery

inductive Stage where
  | filter (predicate : Document)
  | unwind (body : Json)
  | lookup (body : Document)
  | group (body : Document)
  | project (body : Json)
  | sort (body : Json)
  | limit (body : Json)
  /-- Any other stage of a template. -/
  | custom (operator : String) (body : Json)
deriving DecidableEq

inductive StageError where
  | notAnObject
  | operatorCount (count : Nat)
  | notAnOperator (key : String)
  | invalidBody (operator expected : String)
deriving DecidableEq, Repr

namespace StageError

def message : StageError → String
  | notAnObject => "stage must be an object"
  | operatorCount count =>
    "stage must have exactly one operator, found " ++ String.ofList (Text.natDigits count)
  | notAnOperator key => "stage key `" ++ key ++ "` is not an operator"
  | invalidBody operator expected => operator ++ " body must be " ++ expected

end StageError

/-- The array path in the body of an unwind stage: a string, or the `path` of an object. -/
def unwindPath? : Json → Option String
  | .string path => some path
  | .object fields => (Entries.get? "path" fields).bind Json.text?
  | _ => none

def isOperatorKey (key : String) : Bool := key.toList.head? = some '$'

namespace Stage

def operator : Stage → String
  | filter _ => "$match"
  | unwind _ => "$unwind"
  | lookup _ => "$lookup"
  | group _ => "$group"
  | project _ => "$project"
  | sort _ => "$sort"
  | limit _ => "$limit"
  | custom operator _ => operator

def body : Stage → Json
  | filter doc | lookup doc | group doc => .object doc
  | unwind body | project body | sort body | limit body | custom _ body => body

def toJson (stage : Stage) : Json := .object [(stage.operator, stage.body)]

/-- A stage whose body has to be an object. -/
def ofObjectBody (operator : String) (make : Document → Stage) : Json → Except StageError Stage
  | .object doc => .ok (make doc)
  | _ => .error (.invalidBody operator "an object")

/-- The stage of an operator and a body. -/
def ofParts (operator : String) (body : Json) : Except StageError Stage :=
  if !isOperatorKey operator then .error (.notAnOperator operator)
  else if operator = "$match" then ofObjectBody operator filter body
  else if operator = "$lookup" then ofObjectBody operator lookup body
  else if operator = "$group" then ofObjectBody operator group body
  else if operator = "$unwind" then
    if (unwindPath? body).isSome then .ok (unwind body)
    else .error (.invalidBody operator "a path string or an object with `path`")
  else if operator = "$project" then .ok (project body)
  else if operator = "$sort" then .ok (sort body)
  else if operator = "$limit" then .ok (limit body)
  else .ok (custom operator body)

def ofJson : Json → Except StageError Stage
  | .object [(operator, body)] => ofParts operator body
  | .object fields => .error (.operatorCount fields.length)
  | _ => .error .notAnObject

def isFilter : Stage → Bool
  | filter _ => true
  | _ => false

def isUnwind : Stage → Bool
  | unwind _ => true
  | _ => false

def predicate? : Stage → Option Document
  | filter doc => some doc
  | _ => none

/-- The array path of an unwind stage, as written. -/
def path? : Stage → Option String
  | unwind body => unwindPath? body
  | _ => none

end Stage

end ReportQuery
