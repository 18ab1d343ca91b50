import ReportQuery.Json.Source
import ReportQuery.Text.Split

/-!
# Reading JSON text

`readSource` reads a text as far as it goes and leaves a fault where it stops. `ofText` gives the
value of a text that is JSON from end to end.
-/

namespace ReportQuery.Json

/-- What is left of a text after a non-empty part of it. -/
abbrev Shorter (text : List Char) := { rest : List Char // rest.length < text.length }

/-- What is left of a text after a part of it, perhaps an empty one. -/
abbrev NotLonger (text : List Char) := { rest : List Char // rest.length ≤ text.length }

/-- A source with the text after it, if reading can go on there. -/
abbrev Reading (text : List Char) := Source × Option (Shorter text)

def isBlank (c : Char) : Bool := c = ' ' || c = '\n' || c = '\t' || c = '\r'

def skipBlanks : (text : List Char) → NotLonger text
  | [] => ⟨[], Nat.le_refl _⟩
  | c :: rest =>
    if isBlank c then let ⟨r, h⟩ := skipBlanks rest; ⟨r, Nat.le_succ_of_le h⟩
    else ⟨c :: rest, Nat.le_refl _⟩

/-! ## Words -/

/-- Reads the rest of a word of which the first letter is known. -/
def readWord : (word text : List Char) → Except Fault (NotLonger text)
  | [], text => .ok ⟨text, Nat.le_refl _⟩
  | _ :: _, [] => .error .endInValue
  | a :: word, b :: text =>
    if a = b then do let ⟨r, h⟩ ← readWord word text; return ⟨r, Nat.le_succ_of_le h⟩
    else .error .brokenWord

/-! ## Strings -/

def hexValue? (c : Char) : Option Nat :=
  if '0' ≤ c ∧ c ≤ '9' then some (c.toNat - 48)
  else if 'a' ≤ c ∧ c ≤ 'f' then some (c.toNat - 87)
  else if 'A' ≤ c ∧ c ≤ 'F' then some (c.toNat - 55)
  else none

def hexValue4? (a b c d : Char) : Option Nat := do
  return (← hexValue? a) * 4096 + (← hexValue? b) * 256 + (← hexValue? c) * 16 + (← hexValue? d)

/-- The fault of an escape with too few digits: the text ends within the four bytes, or not. -/
def shortEscape (text : List Char) : Fault :=
  if Text.byteLength text < 4 then .endInString else .badEscape

/-- The characters that stand for themselves or for a control character after a backslash. -/
def unescape? (c : Char) : Option Char :=
  if c = '"' ∨ c = '\\' ∨ c = '/' then some c
  else if c = 'n' then some '\n'
  else if c = 'r' then some '\r'
  else if c = 't' then some '\t'
  else if c = 'b' then some '\x08'
  else if c = 'f' then some '\x0c'
  else none

/-- A part of a string between quotes. -/
inductive Piece where
  | char (c : Char)
  | unit (code : Nat)

/-- The pieces up to the closing quote, and the text after it or the fault that came before it. A
character that may not stand there still counts as a piece. -/
def readPieces : (text : List Char) → List Piece × Except Fault (Shorter text)
  | [] => ([], .error .endInString)
  | '"' :: rest => ([], .ok ⟨rest, Nat.lt_succ_self _⟩)
  | ['\\'] => ([], .error .endInString)
  | '\\' :: 'u' :: a :: b :: c :: d :: rest =>
    match hexValue4? a b c d with
    | none => ([], .error (shortEscape (a :: b :: c :: d :: rest)))
    | some code =>
      let (pieces, after) := readPieces rest
      (.unit code :: pieces, after.map fun ⟨r, h⟩ => ⟨r, by simp only [List.length_cons]; omega⟩)
  | '\\' :: c :: rest =>
    match unescape? c with
    | none => if c = 'u' then ([], .error (shortEscape rest)) else ([.char c], .error .badEscape)
    | some c =>
      let (pieces, after) := readPieces rest
      (.char c :: pieces, after.map fun ⟨r, h⟩ => ⟨r, by simp only [List.length_cons]; omega⟩)
  | c :: rest =>
    if c.toNat < 32 then ([.char c], .error .controlCharacter)
    else
      let (pieces, after) := readPieces rest
      (.char c :: pieces, after.map fun ⟨r, h⟩ => ⟨r, by simp only [List.length_cons]; omega⟩)

/-- The characters that pieces spell. A surrogate has to be the first of a pair and its second half
has to follow; `ending` is the fault of a first half at the end of the pieces. -/
def joinPieces (ending : Fault) : List Piece → Except Fault (List Char)
  | [] => .ok []
  | .char c :: rest => do return c :: (← joinPieces ending rest)
  | .unit code :: rest =>
    if 0xDC00 ≤ code ∧ code ≤ 0xDFFF then .error .loneSurrogate
    else if code < 0xD800 ∨ 0xDBFF < code then do
      return Char.ofNat code :: (← joinPieces ending rest)
    else
      match rest with
      | [] => .error ending
      | .char _ :: _ => .error .unpairedSurrogate
      | .unit second :: rest =>
        if second < 0xDC00 ∨ 0xDFFF < second then .error .loneSurrogate
        else do
          let c := Char.ofNat ((code - 0xD800) * 0x400 + (second - 0xDC00) + 0x10000)
          return c :: (← joinPieces ending rest)

/-- A string after its opening quote: its text, and where passing over it gets. -/
def readString (text : List Char) : Except Fault String × Except Fault (Shorter text) :=
  let (pieces, after) := readPieces text
  let ending := match after with
    | .ok _ => .unpairedSurrogate
    | .error fault => fault
  match joinPieces ending pieces, after with
  | .error fault, after => (.error fault, after)
  | .ok _, .error fault => (.error fault, .error fault)
  | .ok chars, .ok after => (.ok (String.ofList chars), .ok after)

/-- The source of a string, which can be passed over even if its surrogates are not paired. -/
def readStringSource (text : List Char) : Reading text :=
  match readString text with
  | (.ok s, .ok after) => (.string s, some after)
  | (.error fault, .ok after) => (.refused fault (.string ""), some after)
  | (.error used, .error skipped) => (.broken false ⟨used, skipped⟩, none)
  | (.ok _, .error fault) => (.broken false (.at fault), none)

/-! ## Numbers -/

def readDigits (text : List Char) : List Char × NotLonger text :=
  (text.takeWhile Text.isDigit,
    ⟨text.dropWhile Text.isDigit, (List.dropWhile_sublist _).length_le⟩)

/-- A number as written. -/
structure NumberText where
  negative : Bool
  whole : List Char
  fraction : Option (List Char)
  exponent : Option Int

/-- A whole number without sign: no zero stands before another digit. -/
def readWhole (text : List Char) : Except Fault (List Char × Shorter text) :=
  match text with
  | [] => .error .endInValue
  | c :: rest =>
    if c = '0' then
      if rest.head?.any Text.isDigit then .error .badNumber
      else .ok (['0'], ⟨rest, Nat.lt_succ_self _⟩)
    else if Text.isDigit c then
      let (digits, ⟨r, h⟩) := readDigits rest
      .ok (c :: digits, ⟨r, Nat.lt_succ_of_le h⟩)
    else .error .badNumber

def readSomeDigits (text : List Char) : Except Fault (List Char × NotLonger text) :=
  match text with
  | [] => .error .endInValue
  | c :: rest =>
    if Text.isDigit c then
      let (digits, ⟨r, h⟩) := readDigits rest
      .ok (c :: digits, ⟨r, Nat.le_succ_of_le h⟩)
    else .error .badNumber

/-- The digits after a point, if there is one. -/
def readFraction (text : List Char) : Except Fault (Option (List Char) × NotLonger text) :=
  match text with
  | '.' :: rest => do
    let (digits, ⟨r, h⟩) ← readSomeDigits rest
    return (some digits, ⟨r, Nat.le_succ_of_le h⟩)
  | text => .ok (none, ⟨text, Nat.le_refl _⟩)

/-- The sign of an exponent and the text after it. -/
def readSign (text : List Char) : Bool × NotLonger text :=
  match text with
  | '-' :: rest => (true, ⟨rest, Nat.le_succ _⟩)
  | '+' :: rest => (false, ⟨rest, Nat.le_succ _⟩)
  | text => (false, ⟨text, Nat.le_refl _⟩)

/-- The exponent, if there is one. -/
def readExponent (text : List Char) : Except Fault (Option Int × NotLonger text) :=
  match text with
  | c :: rest =>
    if c = 'e' ∨ c = 'E' then do
      let (negative, ⟨afterSign, h₁⟩) := readSign rest
      let (digits, ⟨r, h₂⟩) ← readSomeDigits afterSign
      let size : Int := Text.digitsValue digits
      return (some (if negative then -size else size), ⟨r, by simp only [List.length_cons]; omega⟩)
    else .ok (none, ⟨c :: rest, Nat.le_refl _⟩)
  | [] => .ok (none, ⟨[], Nat.le_refl _⟩)

/-- A number after its sign. -/
def readNumberText (negative : Bool) (text : List Char) :
    Except Fault (NumberText × Shorter text) := do
  let (whole, ⟨r₁, h₁⟩) ← readWhole text
  let (fraction, ⟨r₂, h₂⟩) ← readFraction r₁
  let (exponent, ⟨r₃, h₃⟩) ← readExponent r₂
  return (⟨negative, whole, fraction, exponent⟩, ⟨r₃, by omega⟩)

/-- Appends digits to a significand while it has at most 64 bits. Gives the number of digits for
which there is no room, too. -/
def takeDigits (significand : Nat) : List Char → Nat × Nat
  | [] => (significand, 0)
  | c :: rest =>
    let next := significand * 10 + Text.digitValue c
    if next < 18446744073709551616 then takeDigits next rest else (significand, (c :: rest).length)

/-- The significand of a written number and the power of ten that it counts. Digits without room
count as zeros before the point, and not at all after it. -/
def NumberText.scaled (n : NumberText) : Nat × Int :=
  let (whole, dropped) := takeDigits 0 n.whole
  let fraction := n.fraction.getD []
  let (significand, left) := takeDigits whole fraction
  (significand, n.exponent.getD 0 + dropped - (fraction.length - left : Nat))

/-- The double of a written number: its significand, scaled by the power of ten. As both steps round,
it may be next to the nearest one. -/
def NumberText.double? (n : NumberText) : Option Binary64 := do
  let (significand, exponent) := n.scaled
  let x ← (← Binary64.ofNat? significand).timesPowerOfTen? exponent
  return if n.negative then x.neg else x

/-- The number that is written: a whole one of at most 64 bits as it is, all others as doubles. A
negative zero is a double. -/
def NumberText.number? (n : NumberText) : Option Number :=
  let size : Int := Text.digitsValue n.whole
  let value := if n.negative then -size else size
  let whole := n.fraction.isNone && n.exponent.isNone
  if h : whole ∧ ¬(n.negative ∧ size = 0) ∧ Fits64 value then some (.integer value h.2.2)
  else n.double?.map .double

def readNumber (negative : Bool) (text : List Char) : Reading text :=
  match readNumberText negative text with
  | .error .endInValue => (.broken true ⟨.endInValue, .badNumber⟩, none)
  | .error fault => (.broken true (.at fault), none)
  | .ok (n, after) =>
    match n.number? with
    | some value => (.number value, some after)
    | none => (.refused .numberTooLarge (.number (.double (.zero n.negative))), some after)

/-! ## Values -/

def readScalar (text : List Char) : Reading text :=
  match text with
  | [] => (.broken false (.at .endInValue), none)
  | c :: rest =>
    let word (word : String) (value : Source) : Reading (c :: rest) :=
      match readWord word.toList rest with
      | .ok ⟨r, h⟩ => (value, some ⟨r, Nat.lt_succ_of_le h⟩)
      | .error fault => (.broken true (.at fault), none)
    let within (reading : Reading rest) : Reading (c :: rest) :=
      (reading.1, reading.2.map fun ⟨r, h⟩ => ⟨r, Nat.lt_succ_of_lt h⟩)
    if c = 'n' then word "ull" .null
    else if c = 't' then word "rue" (.bool true)
    else if c = 'f' then word "alse" (.bool false)
    else if c = '"' then within (readStringSource rest)
    else if c = '-' then within (readNumber true rest)
    else if Text.isDigit c then readNumber false (c :: rest)
    else (.broken false (.at .noValue), none)

/-- The number of arrays and objects that may stand around and in one another. -/
def maxDepth : Nat := 127

/-- An array or object inside `depth` others. -/
def nested (depth : Nat) (value : Source) : Source :=
  if depth < maxDepth then value else .refused .tooDeep value

/-- The parts of an array or object, where reading them stops, and the text after them. -/
abbrev Parts (α : Type) (text : List Char) := List α × Option Stop × Option (Shorter text)

/-- Parts that end in a fault. -/
def stopped {α : Type} {text : List Char} (parts : List α) (used skipped : Fault) : Parts α text :=
  (parts, some ⟨used, skipped⟩, none)

mutual

/-- The value at the start of a text, inside `depth` arrays and objects. -/
def readValue (depth : Nat) (text : List Char) : Reading text :=
  match skipBlanks text with
  | ⟨[], _⟩ => (.broken false (.at .endInValue), none)
  | ⟨c :: rest, h⟩ =>
    if c = '[' then
      let (items, stop, after) := readItems (depth + 1) true rest
      (nested depth (.array items stop),
        after.map fun ⟨r, h'⟩ => ⟨r, by simp only [List.length_cons] at h; omega⟩)
    else if c = '\x7b' then
      let (fields, stop, after) := readFields (depth + 1) true rest
      (nested depth (.object fields stop),
        after.map fun ⟨r, h'⟩ => ⟨r, by simp only [List.length_cons] at h; omega⟩)
    else
      let (value, after) := readScalar (c :: rest)
      (value, after.map fun ⟨r, h'⟩ => ⟨r, by simp only [List.length_cons] at h h'; omega⟩)
termination_by (text.length, 0)
decreasing_by all_goals (simp only [List.length_cons] at h; omega)

def readItems (depth : Nat) (first : Bool) (text : List Char) : Parts Source text :=
  match skipBlanks text with
  | ⟨[], _⟩ => stopped [] .endInArray .endInArray
  | ⟨c :: rest, h⟩ =>
    if c = ']' then ([], none, some ⟨rest, by simp only [List.length_cons] at h; omega⟩)
    else if first then readItemsFrom depth (c :: rest) text h
    else if c = ',' then
      if (skipBlanks rest).val.head? = some ']' then stopped [] .trailingComma .noValue
      else readItemsFrom depth rest text (by simp only [List.length_cons] at h; omega)
    else stopped [] .missingArrayComma .missingArrayComma
termination_by (text.length, 2)
decreasing_by all_goals (simp only [List.length_cons] at h ⊢; omega)

/-- An item and those after it. -/
def readItemsFrom (depth : Nat) (here text : List Char) (le : here.length ≤ text.length) :
    Parts Source text :=
  match readValue depth here with
  | (item, none) => ([item], none, none)
  | (item, some ⟨rest, h⟩) =>
    let (items, stop, after) := readItems depth false rest
    (item :: items, stop, after.map fun ⟨r, h'⟩ => ⟨r, by omega⟩)
termination_by (here.length, 1)
decreasing_by all_goals omega

def readFields (depth : Nat) (first : Bool) (text : List Char) : Parts (SourceKey × Source) text :=
  match skipBlanks text with
  | ⟨[], _⟩ => stopped [] .endInObject .endInObject
  | ⟨c :: rest, h⟩ =>
    if c = '\x7d' then ([], none, some ⟨rest, by simp only [List.length_cons] at h; omega⟩)
    else if first then
      if c = '"' then readFieldsFrom depth rest text (by simp only [List.length_cons] at h; omega)
      else stopped [] .keyNotString .keyNotString
    else if c = ',' then
      match skipBlanks rest with
      | ⟨[], _⟩ => stopped [] .endInValue .endInObject
      | ⟨d :: inner, h'⟩ =>
        if d = '"' then
          readFieldsFrom depth inner text (by simp only [List.length_cons] at h h'; omega)
        else stopped [] (if d = '\x7d' then .trailingComma else .keyNotString) .keyNotString
    else stopped [] .missingObjectComma .missingObjectComma
termination_by (text.length, 0)
decreasing_by
  · simp only [List.length_cons] at h; omega
  · simp only [List.length_cons] at h h'; omega

/-- A field after the opening quote of its key, and those after it. -/
def readFieldsFrom (depth : Nat) (here text : List Char) (lt : here.length < text.length) :
    Parts (SourceKey × Source) text :=
  match readString here with
  | (.error used, .error skipped) => stopped [] used skipped
  | (.ok _, .error fault) => stopped [] fault fault
  | (key, .ok ⟨afterKey, h₁⟩) =>
    match skipBlanks afterKey with
    | ⟨[], _⟩ => ([(key, .broken false (.at .endInObject))], none, none)
    | ⟨c :: rest, h₂⟩ =>
      if c = ':' then
        match readValue depth rest with
        | (value, none) => ([(key, value)], none, none)
        | (value, some ⟨r, h₃⟩) =>
          let (fields, stop, after) := readFields depth false r
          ((key, value) :: fields, stop,
            after.map fun ⟨r', h'⟩ => ⟨r', by simp only [List.length_cons] at h₂; omega⟩)
      else ([(key, .broken false (.at .missingColon))], none, none)
termination_by (here.length, 1)
decreasing_by all_goals (simp only [List.length_cons] at h₂; omega)

end

/-! ## Texts -/

/-- What a text spells, and whether anything but blanks stands after it. -/
def readSource (text : String) : Source × Bool :=
  match readValue 0 text.toList with
  | (source, none) => (source, false)
  | (source, some ⟨rest, _⟩) => (source, !(skipBlanks rest).val.isEmpty)

def ofText (text : String) : Except Fault Json := do
  let (source, more) := readSource text
  let value ← source.toJson
  if more then .error .trailingText else return value

end ReportQuery.Json
