import ReportQuery.Calendar.Reading
import ReportQuery.Json.Basic
import ReportQuery.Text.Case

/-!
# Relative dates

Placeholders such as `now-7d`, resolved against the current instant anywhere in a JSON value, and
the named ranges `YTD`, `QTD` and `MTD`. A placeholder under `$gte` is moved to the start of its day
and one under `$lte` to the last millisecond of its day, so that both end days of a range belong to
it.
-/

namespace ReportQuery

/-- Where in its day an instant is moved. -/
inductive DayBound where
  | startOfDay
  | endOfDay
  | exact
deriving DecidableEq, Repr

namespace DayBound

/-- The bound for a value under the key of an operator. -/
def ofKey (key : Option String) : DayBound :=
  if key = some "$gte" then startOfDay else if key = some "$lte" then endOfDay else exact

def apply : DayBound → Instant → Instant
  | startOfDay, t => .startOf t.date
  | endOfDay, t => .endOf t.date
  | exact, t => t

end DayBound

/-! ## Placeholders -/

namespace Placeholder

/-- The largest number of days that a placeholder can name. -/
def maxDays : Nat := 9223372036854775807

/-- The days after a sign, up to the closing `d`. -/
def days? (text : List Char) : Option Nat := do
  let digits := text.takeWhile Text.isDigit
  let days ← Text.readNat? digits
  if text.drop digits.length = ['d'] ∧ days ≤ maxDays then some days else none

/-- The offset in days that a token names, if it is a placeholder. -/
def offset? (token : String) : Option Int := do
  match ← Text.afterPrefix? ['n', 'o', 'w'] token.toList with
  | [] => some 0
  | '+' :: rest => (days? rest).map fun n => (n : Int)
  | '-' :: rest => (days? rest).map fun n => -(n : Int)
  | _ => none

/-- The instant text of a placeholder; none if the token is no placeholder or dates do not reach so
far. -/
def resolve? (bound : DayBound) (now : Instant) (token : String) : Option String := do
  let instant ← now.addDays? (← offset? token)
  return String.ofList (bound.apply instant).toText

/-- The resolved text, or the token as it is. -/
def resolveText (bound : DayBound) (now : Instant) (token : String) : String :=
  (resolve? bound now token).getD token

end Placeholder

namespace Json

mutual

/-- Resolves the placeholders of a value under a key; items of an array stand under its key. -/
def resolveUnder (now : Instant) (key : Option String) : Json → Json
  | string token => string (Placeholder.resolveText (.ofKey key) now token)
  | array items => array (resolveItems now key items)
  | object fields => object (resolveFields now fields)
  | value => value

def resolveItems (now : Instant) (key : Option String) : List Json → List Json
  | [] => []
  | item :: rest => resolveUnder now key item :: resolveItems now key rest

/-- Resolves the placeholders of each field under its own key. -/
def resolveFields (now : Instant) : List (String × Json) → List (String × Json)
  | [] => []
  | (key, value) :: rest => (key, resolveUnder now (some key) value) :: resolveFields now rest

end

def resolve (now : Instant) (value : Json) : Json := resolveUnder now none value

end Json

/-! ## Ranges -/

/-- Instants from the first to the last, both included. -/
structure InstantRange where
  first : Instant
  last : Instant

namespace InstantRange

/-- The range as operators on a field. -/
def operators (r : InstantRange) : Document :=
  [("$gte", .string (String.ofList r.first.toText)),
    ("$lte", .string (String.ofList r.last.toText))]

end InstantRange

/-- A named range up to now. -/
inductive DatePreset where
  | yearToDate
  | quarterToDate
  | monthToDate
deriving DecidableEq, Repr

namespace DatePreset

def name : DatePreset → String
  | yearToDate => "YTD"
  | quarterToDate => "QTD"
  | monthToDate => "MTD"

def ofName? (name : String) : Option DatePreset :=
  let upper := String.ofList (Text.upper name.toList)
  if upper = "YTD" then some yearToDate
  else if upper = "QTD" then some quarterToDate
  else if upper = "MTD" then some monthToDate
  else none

/-- The first and last date of a preset. The year to date is the whole year; quarter and month end
today. -/
def dates (preset : DatePreset) (today : Date) : Date × Date :=
  let c := today.civil
  let dateOr (month day : Nat) : Date := (Date.ofCivil? ⟨c.year, month, day⟩).getD today
  match preset with
  | yearToDate => (dateOr 1 1, dateOr 12 31)
  | quarterToDate => (dateOr ((c.month - 1) / 3 * 3 + 1) 1, today)
  | monthToDate => (dateOr c.month 1, today)

def range (preset : DatePreset) (now : Instant) : InstantRange :=
  let (first, last) := preset.dates now.date
  ⟨.startOf first, .endOf last⟩

end DatePreset

/-- One bound of a range that a caller wrote: a placeholder is resolved, a bare date is widened to
the start or the end of its day, and anything else stays as it is. -/
def resolveRangeBound (bound : DayBound) (now : Instant) (raw : String) : String :=
  match Placeholder.resolve? bound now raw with
  | some text => text
  | none =>
    match Date.ofText? raw.toList with
    | some date =>
      String.ofList (if bound = .endOfDay then Instant.endOf date else Instant.startOf date).toText
    | none => raw

end ReportQuery
