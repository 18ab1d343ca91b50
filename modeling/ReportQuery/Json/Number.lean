import ReportQuery.Number.Shortest

/-!
# JSON numbers

A JSON number is a whole number of at most 64 bits, signed below zero and unsigned above, or else a
binary floating point number.
-/

namespace ReportQuery.Json

/-- The whole numbers that are kept as such. -/
def Fits64 (n : Int) : Prop := -9223372036854775808 ≤ n ∧ n < 18446744073709551616

instance (n : Int) : Decidable (Fits64 n) := inferInstanceAs (Decidable (_ ∧ _))

inductive Number where
  | integer (value : Int) (fits : Fits64 value)
  | double (value : Binary64)
deriving DecidableEq

namespace Number

/-- A whole number, if it has at most 64 bits. -/
def ofInt? (n : Int) : Option Number := if h : Fits64 n then some (.integer n h) else none

def isZero : Number → Bool
  | integer n _ => n = 0
  | double x => x.isZero

/-- The text of a number: digits for a whole number, else the shortest digits of a double. -/
def toText : Number → List Char
  | integer n _ => Text.intDigits n
  | double x => x.toText

end Number

end ReportQuery.Json
