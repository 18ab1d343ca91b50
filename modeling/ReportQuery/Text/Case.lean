/-!
# Letter case

Upper case of the ASCII letters, and comparison of texts that ignores their case. Other characters
are left alone.
-/

namespace ReportQuery.Text

/-- The text with its ASCII letters in upper case. -/
def upper (text : List Char) : List Char := text.map Char.toUpper

/-- The texts are equal but for the case of ASCII letters. -/
def sameIgnoringCase (a b : List Char) : Bool := upper a = upper b

end ReportQuery.Text
