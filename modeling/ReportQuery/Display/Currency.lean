import ReportQuery.Display.Number
import ReportQuery.Entries

/-!
# Amounts of money

An amount has the fraction digits of its currency, and the currency's symbol before or after it. A
currency without a symbol of its own shows its code, which a blank always divides from the amount.
-/

namespace ReportQuery

/-- The three letters of a currency, by ISO 4217, in upper case. -/
abbrev CurrencyCode := String

namespace CurrencyCode

def ofText (text : String) : CurrencyCode := String.ofList (Text.upper text.toList)

/-- Currencies without minor units. -/
def wholeUnits : List CurrencyCode := ["JPY", "KRW", "VND", "CLP", "ISK", "HUF"]

/-- Currencies with a thousand minor units. -/
def thousandths : List CurrencyCode := ["BHD", "KWD", "OMR", "JOD", "TND"]

def minorDigits (code : CurrencyCode) : Nat :=
  if code ∈ wholeUnits then 0 else if code ∈ thousandths then 3 else 2

def symbols : Entries String := [
  ("USD", "$"), ("EUR", "€"), ("GBP", "£"), ("INR", "₹"), ("JPY", "¥"), ("BRL", "R$"),
  ("CNY", "CN¥"), ("KRW", "₩"), ("CAD", "CA$"), ("AUD", "A$"), ("MXN", "MX$")]

def symbol (code : CurrencyCode) : String := (Entries.get? code symbols).getD code

end CurrencyCode

namespace Locale

/-- What divides amount and symbol. -/
def symbolSeparator (l : Locale) (code : CurrencyCode) : List Char :=
  if l.symbolSpaced || code.symbol = code then [noBreakSpace] else []

def withSymbol (l : Locale) (code : CurrencyCode) (amount : List Char) : List Char :=
  if l.symbolFirst then code.symbol.toList ++ l.symbolSeparator code ++ amount
  else amount ++ l.symbolSeparator code ++ code.symbol.toList

/-- The text shows a digit other than zero. -/
def showsNonzero (text : List Char) : Bool := text.any fun c => Text.isDigit c && c ≠ '0'

/-- An amount of a currency, with as many fraction digits as the currency has or as are asked for. A
minus sign stands before everything else. -/
def currency (l : Locale) (code : CurrencyCode) (decimals : Option Nat) (d : Decimal) : List Char :=
  let digits := decimals.getD code.minorDigits
  let amount := l.number digits digits d.abs
  if d.negative && showsNonzero amount then '-' :: l.withSymbol code amount
  else l.withSymbol code amount

end Locale

end ReportQuery
