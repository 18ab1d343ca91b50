import ReportQuery.Calendar.Instant
import ReportQuery.Number.Powers
import ReportQuery.Text.Blank
import ReportQuery.Text.Split

/-!
# Reading dates and instants

`Instant.ofText` reads RFC 3339: fixed places for date and time, then an offset from universal time.
`Date.ofText?` and `Date.ofLocalText?` read a date, and a date with a local time, in a looser form:
blanks may stand before each number, and numbers may be short.
-/

namespace ReportQuery

namespace Instant

inductive TextError where
  | tooShort
  | invalid
  | outOfRange
  | tooLong
deriving DecidableEq, Repr

def TextError.message : TextError → String
  | tooShort => "premature end of input"
  | invalid => "input contains invalid characters"
  | outOfRange => "input is out of range"
  | tooLong => "trailing input"

/-- The message that names the text, too. -/
def TextError.messageAbout (text : String) (e : TextError) : String :=
  "invalid RFC 3339 instant `" ++ text ++ "`: " ++ e.message

/-! ## Fixed places -/

/-- The number of exactly `count` digits at the start of a text, and the rest. -/
def takeNumber (count : Nat) (text : List Char) : Except TextError (Nat × List Char) :=
  let digits := text.take count
  if digits.length = count ∧ digits.all Text.isDigit then
    .ok (Text.digitsValue digits, text.drop count)
  else .error .invalid

def takeOneOf (allowed : List Char) : List Char → Except TextError (List Char)
  | c :: rest => if c ∈ allowed then .ok rest else .error .invalid
  | [] => .error .invalid

def takeDate (text : List Char) : Except TextError (Date × List Char) := do
  let (year, text) ← takeNumber 4 text
  let text ← takeOneOf ['-'] text
  let (month, text) ← takeNumber 2 text
  let text ← takeOneOf ['-'] text
  let (day, text) ← takeNumber 2 text
  match Date.ofCivil? ⟨year, month, day⟩ with
  | some date => return (date, text)
  | none => .error .outOfRange

def takeClock (text : List Char) : Except TextError ((Nat × Nat × Nat) × List Char) := do
  let (hour, text) ← takeNumber 2 text
  let text ← takeOneOf [':'] text
  let (minute, text) ← takeNumber 2 text
  let text ← takeOneOf [':'] text
  let (second, text) ← takeNumber 2 text
  return ((hour, minute, second), text)

/-! ## Fraction and offset -/

/-- The nanoseconds of fraction digits; digits after the ninth do not count. -/
def nanoseconds (digits : List Char) : Nat :=
  Text.digitsValue (digits.take 9) * power 10 (9 - (digits.take 9).length)

/-- The nanoseconds after a point, or none if there is no point. -/
def takeFraction : List Char → Except TextError (Nat × List Char)
  | '.' :: text =>
    match text.takeWhile Text.isDigit, text with
    | [], [] => .error .tooShort
    | [], _ => .error .invalid
    | digits, text => .ok (nanoseconds digits, text.drop digits.length)
  | text => .ok (0, text)

theorem second_of_clock_lt {hour minute second : Nat} (hh : hour < 24) (hm : minute < 60)
    (hs : second < 60) : hour * 3600 + minute * 60 + second < 86400 := by omega

/-- The time of day of a clock reading. The second 60 is a leap second. -/
def timeOfDay? (hour minute second nanosecond : Nat) : Option TimeOfDay :=
  let (second, nanosecond) :=
    if second = 60 then (59, nanosecond + 1000000000) else (second, nanosecond)
  if h : hour < 24 ∧ minute < 60 ∧ second < 60 ∧ nanosecond < 2000000000 then
    some ⟨hour * 3600 + minute * 60 + second, nanosecond,
      second_of_clock_lt h.1 h.2.1 h.2.2.1, h.2.2.2⟩
  else none

/-- Two digits of an offset, and the rest. A single character of one byte is too short. -/
def takePair : List Char → Except TextError (Char × Char × List Char)
  | [] => .error .tooShort
  | [c] => if c.utf8Size = 1 then .error .tooShort else .error .invalid
  | a :: b :: rest =>
    if Text.isDigit a && Text.isDigit b then .ok (a, b, rest) else .error .invalid

/-- The minutes by which local time is ahead of universal time. -/
def takeOffset : List Char → Except TextError (Int × List Char)
  | [] => .error .tooShort
  | c :: text =>
    if c = 'Z' ∨ c = 'z' then .ok (0, text)
    else if c = '+' ∨ c = '-' ∨ c = '−' then do
      let (h₁, h₂, text) ← takePair text
      let text ← match text with
        | [] => .error .tooShort
        | text => takeOneOf [':'] text
      let (m₁, m₂, text) ← takePair text
      let minutes := Text.digitsValue [m₁, m₂]
      let total : Int := Text.digitsValue [h₁, h₂] * 60 + minutes
      if 60 ≤ minutes then .error .outOfRange
      else return (if c = '+' then total else -total, text)
    else .error .invalid

/-! ## Instants -/

def ofText (text : List Char) : Except TextError Instant := do
  if Text.byteLength text < 19 then throw .tooShort
  let (date, text) ← takeDate text
  let text ← takeOneOf ['T', 't', ' '] text
  let ((hour, minute, second), text) ← takeClock text
  let (nanosecond, text) ← takeFraction text
  match timeOfDay? hour minute second nanosecond with
  | none => throw .outOfRange
  | some time =>
    let (offset, text) ← takeOffset text
    if text ≠ [] then throw .tooLong
    if 1440 ≤ offset.natAbs then throw .outOfRange
    match addSeconds? ⟨date, time⟩ (-60 * offset) with
    | some instant => return instant
    | none => throw .outOfRange

def ofText? (text : List Char) : Option Instant := (ofText text).toOption

end Instant

/-! ## Looser dates -/

namespace Date

/-- A number of one to `most` digits after blanks, and the rest. -/
def readNumber? (most : Nat) (text : List Char) : Option (Nat × List Char) :=
  let text := Text.trimStart text
  let digits := (text.take most).takeWhile Text.isDigit
  if digits = [] then none else some (Text.digitsValue digits, text.drop digits.length)

/-- A year after blanks: up to four digits, or any number of them after a sign. -/
def readYear? (text : List Char) : Option (Int × List Char) :=
  let signed (rest : List Char) : Option (Nat × List Char) :=
    let digits := rest.takeWhile Text.isDigit
    if digits = [] then none else some (Text.digitsValue digits, rest.drop digits.length)
  match Text.trimStart text with
  | '-' :: rest => (signed rest).map fun (year, rest) => (-(year : Int), rest)
  | '+' :: rest => (signed rest).map fun (year, rest) => ((year : Int), rest)
  | text => (readNumber? 4 text).map fun (year, rest) => ((year : Int), rest)

def readChar? (c : Char) : List Char → Option (List Char)
  | d :: rest => if d = c then some rest else none
  | [] => none

def readDate? (text : List Char) : Option (Civil × List Char) := do
  let (year, text) ← readYear? text
  let (month, text) ← readNumber? 2 (← readChar? '-' text)
  let (day, text) ← readNumber? 2 (← readChar? '-' text)
  return (⟨year, month, day⟩, text)

/-- The date of a text such as `2024-06-15`. -/
def ofText? (text : List Char) : Option Date := do
  let (civil, rest) ← readDate? text
  if rest = [] then ofCivil? civil else none

/-- The date of a text such as `2024-06-15T10:30:00.5`. -/
def ofLocalText? (text : List Char) : Option Date := do
  let (civil, text) ← readDate? text
  let (hour, text) ← readNumber? 2 (← readChar? 'T' text)
  let (minute, text) ← readNumber? 2 (← readChar? ':' text)
  let (second, text) ← readNumber? 2 (← readChar? ':' text)
  let (_, text) ← (Instant.takeFraction text).toOption
  if text = [] ∧ hour < 24 ∧ minute < 60 ∧ second ≤ 60 then ofCivil? civil else none

end Date

end ReportQuery
