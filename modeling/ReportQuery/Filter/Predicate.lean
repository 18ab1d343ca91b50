import ReportQuery.Filter.Key
import ReportQuery.Stage

/-!
# Predicates

What a filter asks of one field, and how the predicates of several filters come together in one
match.
-/

namespace ReportQuery.Filter

inductive Predicate where
  | equals (value : Json)
  /-- Operators with their operands, all of which hold. -/
  | operators (ops : Document)
deriving DecidableEq

namespace Predicate

def ofOperator (name : String) (operand : Json) : Predicate := operators [(name, operand)]

def toJson : Predicate → Json
  | equals value => value
  | operators ops => .object ops

end Predicate

/-! ## Values -/

/-- The value says nothing, and its filter is dropped. -/
def isBlank : Json → Bool
  | .null => true
  | .string text => text = ""
  | _ => false

def asItems : Json → Json
  | .array items => .array items
  | value => .array [value]

/-- The words that stand for false, in either case. -/
def isFalseWord (text : List Char) : Bool :=
  text = [] || text = ['0'] || Text.sameIgnoringCase text "false".toList ||
    Text.sameIgnoringCase text "no".toList

/-- The value as a truth value; text may be one, too. -/
def isTruthy : Json → Bool
  | .null => false
  | .bool b => b
  | .number n => !n.isZero
  | .string text => !isFalseWord text.toList
  | .array _ | .object _ => true

/-- A placeholder resolved, and any other value as it is. -/
def resolveValue (bound : DayBound) (now : Instant) : Json → Json
  | .string token => .string (Placeholder.resolveText bound now token)
  | value => value

def Operator.predicate : Operator → Json → Predicate
  | eq, .array items => .ofOperator "$in" (.array items)
  | eq, value => .equals value
  | isIn, value => .ofOperator "$in" (asItems value)
  | gte, value => .ofOperator "$gte" value
  | lte, value => .ofOperator "$lte" value
  | gt, value => .ofOperator "$gt" value
  | lt, value => .ofOperator "$lt" value
  | ne, value => .ofOperator "$ne" value
  | regex, value | like, value => .operators [("$regex", value), ("$options", .string "i")]
  | «exists», value => .ofOperator "$exists" (.bool (isTruthy value))

/-- The predicate of a filter; a blank value has none. -/
def coerce? (operator : Operator) (now : Instant) (value : Json) : Option Predicate :=
  if isBlank value then none
  else some (operator.predicate (resolveValue operator.bound now value))

/-! ## Merging -/

/-- The object holds operators and nothing else. -/
def isOperatorObject (fields : Document) : Bool :=
  !fields.isEmpty && fields.all fun (key, _) => isOperatorKey key

def operatorsOf? : Json → Option Document
  | .object fields => if isOperatorObject fields then some fields else none
  | _ => none

/-- The value of a path after a predicate. Operators are added to operators that are there, and
anything else takes the place of what is there. -/
def mergedValue (there : Option Json) (predicate : Predicate) : Json :=
  match predicate, there.bind operatorsOf? with
  | .operators ops, some existing => .object (Entries.insertAll existing ops)
  | predicate, _ => predicate.toJson

def merge (path : String) (predicate : Predicate) (fragment : Document) : Document :=
  Entries.insert path (mergedValue (Entries.get? path fragment) predicate) fragment

end ReportQuery.Filter
