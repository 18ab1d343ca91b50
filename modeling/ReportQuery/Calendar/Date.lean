/-!
# Civil dates

Days of the proleptic Gregorian calendar, counted from 1970-01-01, and their years, months and days.
A year begins after the days of all years before it; the year of a day is the one that has begun and
is not over.
-/

namespace ReportQuery

/-- A year, a month from 1 to 12 and a day from 1. -/
structure Civil where
  year : Int
  month : Nat
  day : Nat
deriving DecidableEq, Repr

namespace Civil

def isLeap (year : Int) : Bool := year % 4 = 0 && (year % 100 ≠ 0 || year % 400 = 0)

def monthLengths (year : Int) : List Nat :=
  [31, if isLeap year then 29 else 28, 31, 30, 31, 30, 31, 31, 30, 31, 30, 31]

def daysBeforeYear (year : Int) : Int :=
  let past := year - 1
  365 * past + past / 4 - past / 100 + past / 400

def daysBeforeMonth (year : Int) (month : Nat) : Nat :=
  ((monthLengths year).take (month - 1)).foldr (· + ·) 0

def Valid (c : Civil) : Prop :=
  1 ≤ c.month ∧ 1 ≤ c.day ∧ c.day ≤ ((monthLengths c.year)[c.month - 1]?).getD 0

instance (c : Civil) : Decidable c.Valid := inferInstanceAs (Decidable (_ ∧ _ ∧ _))

def epochDay (c : Civil) : Int :=
  daysBeforeYear c.year + daysBeforeMonth c.year c.month + (c.day - 1) - daysBeforeYear 1970

/-- The year of the day that is `day` days after 0001-01-01. A mean year has 146097 / 400 days,
which gives the year or one of its neighbours. -/
def yearOf (day : Int) : Int :=
  let guess := 400 * day / 146097 + 1
  if day < daysBeforeYear guess then guess - 1
  else if daysBeforeYear (guess + 1) ≤ day then guess + 1
  else guess

/-- The month and the day in it, of a day of the year counted from zero. -/
def monthOf : (lengths : List Nat) → (month day : Nat) → Nat × Nat
  | [], month, day => (month, day + 1)
  | length :: rest, month, day =>
    if day < length then (month, day + 1) else monthOf rest (month + 1) (day - length)

/-- The day that is `day` days after 1970-01-01. -/
def ofEpochDay (day : Int) : Civil :=
  let day := day + daysBeforeYear 1970
  let year := yearOf day
  let (month, dayOfMonth) := monthOf (monthLengths year) 1 (day - daysBeforeYear year).toNat
  ⟨year, month, dayOfMonth⟩

end Civil

/-! ## The range of dates -/

namespace Date

/-- -262143-01-01. -/
def firstDay : Int := -96465292

/-- 262142-12-31. -/
def lastDay : Int := 95026236

end Date

/-- A day in the range of dates. -/
structure Date where
  epochDay : Int
  first_le : Date.firstDay ≤ epochDay
  le_last : epochDay ≤ Date.lastDay
deriving DecidableEq

namespace Date

/-- The day that is `day` days after 1970-01-01, if dates reach so far. -/
def ofEpochDay? (day : Int) : Option Date :=
  if h : firstDay ≤ day ∧ day ≤ lastDay then some ⟨day, h.1, h.2⟩ else none

def civil (d : Date) : Civil := Civil.ofEpochDay d.epochDay

def ofCivil? (c : Civil) : Option Date := if c.Valid then ofEpochDay? c.epochDay else none

def addDays? (d : Date) (days : Int) : Option Date := ofEpochDay? (d.epochDay + days)

end Date

end ReportQuery
