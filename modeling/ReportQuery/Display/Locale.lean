import ReportQuery.Text.Case
import ReportQuery.Text.Split

/-!
# Locales

How numbers, amounts and dates are written in the regions that reports are made for. A tag that is
not among them stands for the first locale of its language, and else for the default one.
-/

namespace ReportQuery

inductive DateOrder where
  | monthDayYear
  | dayMonthYear
  | yearMonthDay
deriving DecidableEq, Repr

structure Locale where
  tag : String
  /-- Divides the groups of three integer digits. -/
  group : Char
  /-- Divides the integer digits from the fraction digits. -/
  point : Char
  /-- Shorter integers are not grouped. -/
  minGrouping : Nat := 4
  /-- The currency symbol goes before the amount. -/
  symbolFirst : Bool
  /-- A blank divides amount and symbol. -/
  symbolSpaced : Bool
  dateOrder : DateOrder := .dayMonthYear
  dateSeparator : Char := '/'
  /-- Days and months have two digits. -/
  datePadded : Bool
deriving DecidableEq, Repr

namespace Locale

/-! ## The table -/

/-- A blank at which no line is broken. -/
def noBreakSpace : Char := '\u00a0'

/-- A narrow blank at which no line is broken. -/
def narrowNoBreakSpace : Char := '\u202f'

def enUS : Locale where
  tag := "en-US"
  group := ','
  point := '.'
  symbolFirst := true
  symbolSpaced := false
  dateOrder := .monthDayYear
  datePadded := false

def enGB : Locale where
  tag := "en-GB"
  group := ','
  point := '.'
  symbolFirst := true
  symbolSpaced := false
  datePadded := true

def enIN : Locale where
  tag := "en-IN"
  group := ','
  point := '.'
  symbolFirst := true
  symbolSpaced := false
  datePadded := false

def deDE : Locale where
  tag := "de-DE"
  group := '.'
  point := ','
  symbolFirst := false
  symbolSpaced := true
  dateSeparator := '.'
  datePadded := false

def frFR : Locale where
  tag := "fr-FR"
  group := narrowNoBreakSpace
  point := ','
  symbolFirst := false
  symbolSpaced := true
  datePadded := true

def esES : Locale where
  tag := "es-ES"
  group := '.'
  point := ','
  minGrouping := 5
  symbolFirst := false
  symbolSpaced := true
  datePadded := false

def itIT : Locale where
  tag := "it-IT"
  group := '.'
  point := ','
  symbolFirst := false
  symbolSpaced := true
  datePadded := false

def ptBR : Locale where
  tag := "pt-BR"
  group := '.'
  point := ','
  symbolFirst := true
  symbolSpaced := true
  datePadded := true

def jaJP : Locale where
  tag := "ja-JP"
  group := ','
  point := '.'
  symbolFirst := true
  symbolSpaced := false
  dateOrder := .yearMonthDay
  datePadded := false

/-- All locales. Of each language the first one is its own default. -/
def all : List Locale := [enUS, enGB, enIN, deDE, frFR, esES, itIT, ptBR, jaJP]

/-! ## Tags -/

/-- The language of a tag: the part before its first hyphen. -/
def languageOf (tag : List Char) : List Char := Text.before '-' tag

/-- The locale of a tag, in which `_` counts as a hyphen and letter case does not count. -/
def ofTag (tag : String) : Locale :=
  let tag := tag.toList.map fun c => if c = '_' then '-' else c
  let exact := all.find? fun l => Text.sameIgnoringCase l.tag.toList tag
  let sameLanguage := all.find? fun l =>
    Text.sameIgnoringCase (languageOf l.tag.toList) (languageOf tag)
  (exact.or sameLanguage).getD enUS

def resolve (tag : Option String) : Locale := (tag.map ofTag).getD enUS

end Locale

end ReportQuery
