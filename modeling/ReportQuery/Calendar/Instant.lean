import ReportQuery.Calendar.Date
import ReportQuery.Text.Digits

/-!
# Instants

Points of universal time: a date with a time of day. A leap second is the second before it with more
than a thousand million nanoseconds. Instants are written to the millisecond.
-/

namespace ReportQuery

structure TimeOfDay where
  second : Nat
  nanosecond : Nat
  second_lt : second < 86400
  nanosecond_lt : nanosecond < 2000000000
deriving DecidableEq

structure Instant where
  date : Date
  time : TimeOfDay
deriving DecidableEq

namespace TimeOfDay

def midnight : TimeOfDay := ⟨0, 0, by decide, by decide⟩

def lastMillisecond : TimeOfDay := ⟨86399, 999000000, by decide, by decide⟩

/-- The second that the clock shows, 60 in a leap second, and its milliseconds. -/
def shown (t : TimeOfDay) : Nat × Nat :=
  if t.nanosecond < 1000000000 then (t.second % 60, t.nanosecond / 1000000)
  else (t.second % 60 + 1, (t.nanosecond - 1000000000) / 1000000)

/-- The time as `HH:MM:SS.mmm`. -/
def toText (t : TimeOfDay) : List Char :=
  let (second, millisecond) := t.shown
  Text.padded 2 (t.second / 3600) ++ ':' :: Text.padded 2 (t.second / 60 % 60) ++
    ':' :: Text.padded 2 second ++ '.' :: Text.padded 3 millisecond

end TimeOfDay

namespace Date

/-- A year of at least four digits; outside 0 to 9999 it has a sign. -/
def yearText (year : Int) : List Char :=
  if 0 ≤ year ∧ year ≤ 9999 then Text.padded 4 year.toNat
  else (if year < 0 then '-' else '+') :: Text.padded 4 year.natAbs

/-- The date as `YYYY-MM-DD`. -/
def toText (d : Date) : List Char :=
  let c := d.civil
  yearText c.year ++ '-' :: Text.padded 2 c.month ++ '-' :: Text.padded 2 c.day

end Date

namespace Instant

def startOf (d : Date) : Instant := ⟨d, .midnight⟩

def endOf (d : Date) : Instant := ⟨d, .lastMillisecond⟩

/-- The instant in the form in which the store keeps timestamps. -/
def toText (t : Instant) : List Char := t.date.toText ++ 'T' :: t.time.toText ++ ['Z']

/-- The instant some seconds later, or earlier. Nanoseconds are kept. -/
def addSeconds? (t : Instant) (seconds : Int) : Option Instant := do
  let total := (t.time.second : Int) + seconds
  let date ← t.date.addDays? (total / 86400)
  return ⟨date,
    { t.time with second := (total % 86400).toNat, second_lt := by omega }⟩

/-- The instant some whole days later, or earlier. No day leaves a leap second as it is; a leap
second that is left counts as the second before it on the way forward and as the one after it on the
way back. -/
def addDays? (t : Instant) (days : Int) : Option Instant :=
  if t.time.nanosecond < 1000000000 ∨ days = 0 then do
    return ⟨← t.date.addDays? days, t.time⟩
  else
    let settled : Instant :=
      ⟨t.date, { t.time with
        nanosecond := t.time.nanosecond - 1000000000
        nanosecond_lt := by have := t.time.nanosecond_lt; omega }⟩
    settled.addSeconds? (86400 * days + if days < 0 then 1 else 0)

def epoch : Instant := ⟨⟨0, by decide, by decide⟩, .midnight⟩

def ofNanoseconds? (n : Int) : Option Instant := do
  let t ← epoch.addSeconds? (n / 1000000000)
  return ⟨t.date, { t.time with
    nanosecond := (n % 1000000000).toNat
    nanosecond_lt := by omega }⟩

def dateOfMillis? (millis : Int) : Option Date := Date.ofEpochDay? (millis / 86400000)

end Instant

end ReportQuery
