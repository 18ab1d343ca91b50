import ReportQuery.Json.Basic

/-!
# JSON as it stands in a text

A `Source` is what a text spells, before it is known to be JSON: keys may repeat, and a fault stands
where reading met it. Reading goes from left to right, so that of several faults the first one
counts. A value that is passed over is looked at less closely than one that is used, and where
neither can go on they may tell of different faults.
-/

namespace ReportQuery.Json

inductive Fault where
  | endInValue
  | endInArray
  | endInObject
  | endInString
  | missingColon
  | missingArrayComma
  | missingObjectComma
  | brokenWord
  | noValue
  | badEscape
  | badNumber
  | numberTooLarge
  | controlCharacter
  | keyNotString
  | loneSurrogate
  | unpairedSurrogate
  | trailingComma
  | trailingText
  | tooDeep
deriving DecidableEq, Repr

namespace Fault

/-- Whether more text could still mend it. -/
def isEnd : Fault → Bool
  | endInValue | endInArray | endInObject | endInString => true
  | _ => false

def message : Fault → String
  | endInValue => "EOF while parsing a value"
  | endInArray => "EOF while parsing a list"
  | endInObject => "EOF while parsing an object"
  | endInString => "EOF while parsing a string"
  | missingColon => "expected `:`"
  | missingArrayComma => "expected `,` or `]`"
  | missingObjectComma => "expected `,` or `\x7d`"
  | brokenWord => "expected ident"
  | noValue => "expected value"
  | badEscape => "invalid escape"
  | badNumber => "invalid number"
  | numberTooLarge => "number out of range"
  | controlCharacter => "control character (\\u0000-\\u001F) found while parsing a string"
  | keyNotString => "key must be a string"
  | loneSurrogate => "lone leading surrogate in hex escape"
  | unpairedSurrogate => "unexpected end of hex escape"
  | trailingComma => "trailing comma"
  | trailingText => "trailing characters"
  | tooDeep => "recursion limit exceeded"

end Fault

/-- The faults of a place where reading cannot go on: one if what stands there is used, and one if it
is passed over. -/
structure Stop where
  used : Fault
  skipped : Fault
deriving DecidableEq, Repr

def Stop.at (fault : Fault) : Stop := ⟨fault, fault⟩

/-- A key, or why it can only be passed over. -/
abbrev SourceKey := Except Fault String

/-- What a text spells. The items of an array and the fields of an object go up to its end, or to
the place where reading stops. -/
inductive Source where
  | null
  | bool (value : Bool)
  | number (value : Number)
  | string (text : String)
  | array (items : List Source) (stop : Option Stop)
  | object (fields : List (SourceKey × Source)) (stop : Option Stop)
  /-- Reading stops here; `begun` says that it is within a word or a number. -/
  | broken (begun : Bool) (stop : Stop)
  /-- A value that can be passed over and not used. -/
  | refused (fault : Fault) (value : Source)

namespace Source

/-! ## Values as sources -/

mutual

def ofJson : Json → Source
  | .null => null
  | .bool b => bool b
  | .number n => number n
  | .string s => string s
  | .array items => array (ofItems items) none
  | .object fields => object (ofFields fields) none

def ofItems : List Json → List Source
  | [] => []
  | item :: rest => ofJson item :: ofItems rest

def ofFields : List (String × Json) → List (SourceKey × Source)
  | [] => []
  | (key, value) :: rest => (.ok key, ofJson value) :: ofFields rest

end

/-! ## Sources as values -/

/-- Goes on after the items or fields unless reading stops there. -/
def use : Option Stop → Except Fault Unit
  | none => .ok ()
  | some stop => .error stop.used

/-- Passes over the end of an array or object unless reading stops there. -/
def pass : Option Stop → Except Fault Unit
  | none => .ok ()
  | some stop => .error stop.skipped

mutual

/-- The value that a source spells; a key that repeats has the last of its values at its first
place. -/
def toJson : Source → Except Fault Json
  | null => .ok .null
  | bool b => .ok (.bool b)
  | number n => .ok (.number n)
  | string s => .ok (.string s)
  | array items stop => do
    let items ← toItems items
    use stop
    return .array items
  | object fields stop => do
    let fields ← toFields [] fields
    use stop
    return .object fields
  | broken _ stop => .error stop.used
  | refused fault _ => .error fault

def toItems : List Source → Except Fault (List Json)
  | [] => .ok []
  | item :: rest => do return (← toJson item) :: (← toItems rest)

def toFields (done : Document) : List (SourceKey × Source) → Except Fault Document
  | [] => .ok done
  | (key, value) :: rest => do
    let key ← key
    toFields (Entries.insert key (← toJson value) done) rest

end

mutual

def skip : Source → Except Fault Unit
  | array items stop => do skipItems items; pass stop
  | object fields stop => do skipFields fields; pass stop
  | broken _ stop => .error stop.skipped
  | refused _ value => skip value
  | _ => .ok ()

def skipItems : List Source → Except Fault Unit
  | [] => .ok ()
  | item :: rest => do skip item; skipItems rest

def skipFields : List (SourceKey × Source) → Except Fault Unit
  | [] => .ok ()
  | (_, value) :: rest => do skip value; skipFields rest

end

end Source

end ReportQuery.Json
