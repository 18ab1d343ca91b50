import ReportQuery.RelativeDate
import ReportQuery.Text.Split

/-!
# Filter keys

A filter key is a field name, perhaps with an operator after two underscores: `status`,
`amount__gte`. A key that does not end in a known operator is a field name as a whole.
-/

namespace ReportQuery.Filter

inductive Operator where
  /-- Equality; the operator of a key without suffix. -/
  | eq
  | isIn
  | gte
  | lte
  | gt
  | lt
  | ne
  | regex
  /-- A regular expression that ignores case. -/
  | like
  | exists
deriving DecidableEq, Repr

namespace Operator

def name : Operator → String
  | eq => "eq"
  | isIn => "in"
  | gte => "gte"
  | lte => "lte"
  | gt => "gt"
  | lt => "lt"
  | ne => "ne"
  | regex => "regex"
  | like => "like"
  | «exists» => "exists"

def suffixed : List Operator := [isIn, gte, lte, gt, lt, ne, regex, like, «exists»]

def ofSuffix? (suffix : List Char) : Option Operator :=
  suffixed.find? fun op => op.name.toList = suffix

/-- Where placeholders under the operator are moved in their day. -/
def bound : Operator → DayBound
  | gte => .startOfDay
  | lte => .endOfDay
  | _ => .exact

end Operator

structure Key where
  field : String
  operator : Operator
deriving DecidableEq

namespace Key

def separator : List Char := ['_', '_']

/-- The field and operator that the characters of a key name. -/
def ofChars (key : List Char) : List Char × Operator :=
  match Text.splitOnce separator key with
  | none => (key, .eq)
  | some (field, suffix) =>
    match Operator.ofSuffix? suffix with
    | some operator => (field, operator)
    | none => (key, .eq)

def ofText (key : String) : Key :=
  let (field, operator) := ofChars key.toList
  ⟨String.ofList field, operator⟩

end Key

end ReportQuery.Filter
