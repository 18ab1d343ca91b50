import ReportQuery.Decimal.Basic
import ReportQuery.Text.Digits
import ReportQuery.Text.Split

/-!
# Decimals as text

A decimal is written with all its fraction digits. It is read from digits with at most one point,
which may have underscores between them, or from such digits with a power of ten. Fraction digits
that a decimal has no room for are rounded away; integer digits are not.
-/

namespace ReportQuery.Decimal

/-! ## Writing -/

def digitParts (d : Decimal) : List Char × List Char :=
  let digits := Text.padded (d.scale + 1) d.mantissa
  (digits.take (digits.length - d.scale), digits.drop (digits.length - d.scale))

/-- The digits of the magnitude, with a point if there is a fraction. -/
def magnitudeText (d : Decimal) : List Char :=
  let (whole, fraction) := d.digitParts
  if d.scale = 0 then whole else whole ++ '.' :: fraction

def toText (d : Decimal) : List Char :=
  if d.negative then '-' :: d.magnitudeText else d.magnitudeText

/-! ## Reading -/

inductive TextError where
  | empty
  | noDigits
  | twoPoints
  | leadingUnderscore
  | unknownCharacter
  | tooManyDigits
  | roundsTooLarge
  | badExponent
  /-- The exponent moves the point by more places than a fraction has. -/
  | tooManyPlaces (places : Nat)
  | tooLarge
deriving DecidableEq, Repr

def TextError.message : TextError → String
  | empty => "Invalid decimal: empty"
  | noDigits => "Invalid decimal: no digits found"
  | twoPoints => "Invalid decimal: two decimal points"
  | leadingUnderscore => "Invalid decimal: must start lead with a number"
  | unknownCharacter => "Invalid decimal: unknown character"
  | tooManyDigits => "Invalid decimal: overflow from too many digits"
  | roundsTooLarge => "Invalid decimal: overflow from mantissa after rounding"
  | badExponent => "Failed to parse"
  | tooManyPlaces places =>
    "Scale exceeds the maximum precision allowed: " ++ String.ofList (Text.natDigits places) ++
      " > 28"
  | tooLarge => "Number exceeds maximum value that can be represented."

/-- A mantissa and a scale in the range of a decimal. -/
structure Magnitude where
  mantissa : Nat
  scale : Nat
  mantissa_lt : mantissa < 79228162514264337593543950336
  scale_le : scale ≤ 28

/-- Rounds at a digit for which there is no room. If that needs another digit in front, one fraction
digit is given up. -/
def Magnitude.roundAt (m : Magnitude) (digit : Nat) : Except TextError Magnitude :=
  if digit < 5 then .ok m
  else if h : m.mantissa + 1 < 79228162514264337593543950336 then
    .ok { m with mantissa := m.mantissa + 1, mantissa_lt := h }
  else if m.scale = 0 then .error .roundsTooLarge
  else
    .ok ⟨(m.mantissa + 5) / 10, m.scale - 1, by have := m.mantissa_lt; omega,
      by have := m.scale_le; omega⟩

/-- Checks what stands after the digit at which a decimal is rounded: digits and underscores. -/
def checkRest : List Char → Except TextError Unit
  | [] => .ok ()
  | c :: rest =>
    if Text.isDigit c || c = '_' then checkRest rest
    else .error (if c = '.' then .twoPoints else .unknownCharacter)

/-- Rounds at a digit for which there is no room, and then checks what stands after it. -/
def Magnitude.finish (m : Magnitude) (digit : Nat) (rest : List Char) :
    Except TextError Magnitude := do
  let rounded ← m.roundAt digit
  checkRest rest
  return rounded

/-- A mantissa from which on underscores may divide the last fraction digit from the one at which a
decimal is rounded. In front of a smaller one an underscore counts as the digit zero there. -/
def wideMantissa : Nat := 1844674407370954906

/-- Reads digits into `m`. `digits` says whether a digit came before, `fraction` whether the point. -/
def readMagnitude (digits fraction : Bool) (m : Magnitude) : List Char → Except TextError Magnitude
  | [] => if digits then .ok m else .error .noDigits
  | c :: rest =>
    if Text.isDigit c then
      let mantissa := m.mantissa * 10 + Text.digitValue c
      if fraction then
        if h : m.scale < 28 ∧ mantissa < 79228162514264337593543950336 then
          readMagnitude true true ⟨mantissa, m.scale + 1, h.2, h.1⟩ rest
        else m.finish (Text.digitValue c) rest
      else if h : mantissa < 79228162514264337593543950336 then
        readMagnitude true false { m with mantissa := mantissa, mantissa_lt := h } rest
      else .error .tooManyDigits
    else if c = '.' then
      if fraction then .error .twoPoints else readMagnitude digits true m rest
    else if c = '_' then
      if !digits then .error .leadingUnderscore
      else if m.scale = 28 ∧ m.mantissa / 10 < wideMantissa then m.finish 0 rest
      else readMagnitude digits fraction m rest
    else .error .unknownCharacter

def readSign : List Char → Bool × List Char
  | '-' :: rest => (true, rest)
  | '+' :: rest => (false, rest)
  | text => (false, text)

/-- Reads plain digits. Zero never has a sign. -/
def readPlain (text : List Char) : Except TextError Decimal :=
  if text = [] then .error .empty
  else do
    let (negative, digits) := readSign text
    let m ← readMagnitude false false ⟨0, 0, zero.mantissa_lt, zero.scale_le⟩ digits
    return ⟨negative && m.mantissa ≠ 0, m.mantissa, m.scale, m.mantissa_lt, m.scale_le⟩

/-- Moves the point of `d` by `places` to the left. Fraction digits beyond the last are rounded
away. -/
def scaleDown (d : Decimal) (places : Nat) (h : places ≤ 28) : Decimal :=
  { d.round (28 - places) with
    scale := (d.round (28 - places)).scale + places
    scale_le := by have := d.round_scale_le (28 - places); omega }

/-- Moves the point of `d` by `places` to the right; none if the value becomes too large. -/
def scaleUp? (d : Decimal) (places : Nat) (h : places ≤ 28) : Option Decimal :=
  if places ≤ d.scale then
    some { d with scale := d.scale - places, scale_le := by have := d.scale_le; omega }
  else do
    let power : Decimal :=
      ⟨false, power 10 places, 0, Nat.lt_of_le_of_lt (power_le 10 h (by decide)) (by decide),
        zero.scale_le⟩
    return (← d.mul? power).normalize

/-- Reads by how many places an exponent moves the point. It may have a `+` and fits 32 bits. -/
def readPlaces (text : List Char) : Except TextError { places : Nat // places ≤ 28 } :=
  match Text.readNat? (Text.trimPlus text) with
  | none => .error .badExponent
  | some places =>
    if h : places ≤ 28 then .ok ⟨places, h⟩
    else .error (if places < 4294967296 then .tooManyPlaces places else .badExponent)

/-- Reads plain digits times a power of ten, from the texts before and after the `e`. -/
def readScientific (base exponent : List Char) : Except TextError Decimal := do
  let d ← readPlain base
  match exponent with
  | '-' :: text =>
    let ⟨places, h⟩ ← readPlaces text
    return d.scaleDown places h
  | text =>
    let ⟨places, h⟩ ← readPlaces text
    match d.scaleUp? places h with
    | some scaled => return scaled
    | none => throw .tooLarge

/-- Reads plain digits, or digits times a power of ten, as in `1.5e3`. -/
def ofText (text : List Char) : Except TextError Decimal :=
  let base := text.takeWhile fun c => c ≠ 'e' && c ≠ 'E'
  match text.drop base.length with
  | [] => readPlain text
  | _ :: exponent => readScientific base exponent

def ofText? (text : List Char) : Option Decimal := (ofText text).toOption

end ReportQuery.Decimal
