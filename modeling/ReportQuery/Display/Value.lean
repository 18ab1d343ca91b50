import ReportQuery.Calendar.Reading
import ReportQuery.Config.Basic
import ReportQuery.Decimal.Json
import ReportQuery.Display.Currency
import ReportQuery.Display.Date
import ReportQuery.Display.Percentage
import ReportQuery.Text.Blank

/-!
# Values for readers

The text of a JSON value under a format. A value that cannot be read as what the format shows has
none.
-/

namespace ReportQuery

namespace Json

/-- The decimal of a number, or of text that spells one between blanks. -/
def decimal? : Json → Option Decimal
  | number n => Decimal.ofNumber? n
  | string s => Decimal.ofText? (Text.trim s.toList)
  | _ => none

/-- The whole number of milliseconds in a JSON number, without its fraction. -/
def Number.whole : Number → Int
  | integer n _ => n
  | double x => x.truncate

/-- The date of an instant, a date or a local time in text, or of a number of milliseconds after
1970-01-01. -/
def date? : Json → Option Date
  | string s =>
    ((Instant.ofText? s.toList).map Instant.date).or
      ((Date.ofText? s.toList).or (Date.ofLocalText? s.toList))
  | number n => Instant.dateOfMillis? n.whole
  | _ => none

end Json

namespace Format

def maxDecimals : Nat := 100

/-- The most fraction digits of a number whose format asks for none. -/
def defaultNumberDecimals : Nat := 3

/-- The fraction digits of a percentage whose format asks for none. -/
def defaultPercentDecimals : Nat := 2

def defaultCurrency : String := "USD"

/-- The fraction digits that the format asks for. -/
def shownDecimals (f : Format) : Option Nat := f.decimals.map fun n => min n.toNat maxDecimals

def text? (f : Format) (value : Json) : Option (List Char) :=
  let l := Locale.resolve f.locale
  match f.kind with
  | .number => value.decimal?.map fun d =>
    match f.shownDecimals with
    | some n => l.number n n d
    | none => l.number 0 defaultNumberDecimals d
  | .currency => value.decimal?.map
    (l.currency (.ofText (f.currency.getD defaultCurrency)) f.shownDecimals)
  | .percentage =>
    value.decimal?.bind (Decimal.percentage? (f.shownDecimals.getD defaultPercentDecimals))
  | .date => value.date?.map l.date

end Format

end ReportQuery
