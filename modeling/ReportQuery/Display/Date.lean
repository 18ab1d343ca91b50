import ReportQuery.Calendar.Instant
import ReportQuery.Display.Locale

/-!
# Dates for readers

Day, month and year in the order of a locale.
-/

namespace ReportQuery.Locale

def dayText (l : Locale) (n : Nat) : List Char :=
  if l.datePadded then Text.padded 2 n else Text.natDigits n

def date (l : Locale) (date : Date) : List Char :=
  let c := date.civil
  let day := l.dayText c.day
  let month := l.dayText c.month
  let year := Text.intDigits c.year
  let separated (first second third : List Char) : List Char :=
    first ++ l.dateSeparator :: second ++ l.dateSeparator :: third
  match l.dateOrder with
  | .monthDayYear => separated month day year
  | .dayMonthYear => separated day month year
  | .yearMonthDay => separated year month day

end ReportQuery.Locale
