import ReportQuery.Json.Reader
import ReportQuery.Text.Graphic
import ReportQuery.Text.Marks

/-!
# Loading typed values

Decoders take a source apart and stop at the first problem from left to right. A record is loaded
from an object, with its fields in any order and unknown ones passed over, or from an array of its
fields in the order of their declaration.
-/

namespace ReportQuery.Json

/-! ## Problems -/

/-- What a decoder found where it expected something else. -/
inductive Found where
  | null
  | bool (value : Bool)
  | number (value : Number)
  | string (text : String)
  | array
  | object

namespace Found

/-- A character of a text that is shown in a message: one that cannot be seen by itself is shown by
its code. -/
def shownChar (c : Char) : List Char :=
  if c = '"' then ['\\', '"']
  else if c = '\\' then ['\\', '\\']
  else if c = '\n' then ['\\', 'n']
  else if c = '\r' then ['\\', 'r']
  else if c = '\t' then ['\\', 't']
  else if c = '\x00' then ['\\', '0']
  else if Text.isGraphic c && !Text.isMark c then [c]
  else '\\' :: 'u' :: '\x7b' :: Text.hexDigits c.toNat ++ ['\x7d']

def message : Found → String
  | null => "null"
  | bool b => "boolean `" ++ (if b then "true" else "false") ++ "`"
  | number n@(.integer ..) => "integer `" ++ String.ofList n.toText ++ "`"
  | number n@(.double _) => "floating point `" ++ String.ofList n.toText ++ "`"
  | string s => "string \"" ++ String.ofList (s.toList.flatMap shownChar) ++ "\""
  | array => "sequence"
  | object => "map"

end Found

inductive DecodeError where
  | fault (fault : Fault)
  | wrongType (found : Found) (expected : String)
  | outOfRange (found : Found) (expected : String)
  | wrongLength (length : Nat) (expected : String)
  | missingField (name : String)
  | duplicateField (name : String)
  | unknownVariant (name : String) (known : List String)
  | noVariant (type : String)
  /-- A problem that a type has words of its own for. -/
  | custom (message : String)

namespace DecodeError

/-- Texts in backticks, divided by commas. -/
def alternatives (names : List String) : String :=
  String.intercalate ", " (names.map fun name => "`" ++ name ++ "`")

def message : DecodeError → String
  | fault f => f.message
  | wrongType found expected => "invalid type: " ++ found.message ++ ", expected " ++ expected
  | outOfRange found expected => "invalid value: " ++ found.message ++ ", expected " ++ expected
  | wrongLength length expected =>
    "invalid length " ++ String.ofList (Text.natDigits length) ++ ", expected " ++ expected
  | missingField name => "missing field `" ++ name ++ "`"
  | duplicateField name => "duplicate field `" ++ name ++ "`"
  | unknownVariant name known =>
    "unknown variant `" ++ name ++ "`, expected one of " ++ alternatives known
  | noVariant type => "data did not match any variant of untagged enum " ++ type
  | custom message => message

end DecodeError

/-! ## Plain decoders -/

/-- Where a source comes from. A surplus item of a record is a fault in a text, and a wrong length
in a value. -/
inductive Origin where
  | text
  | value
deriving DecidableEq, Repr

abbrev Decoder (α : Type) := Source → Except DecodeError α

namespace Decoder

/-- The problem of a source that is not what was expected. -/
def unexpected (expected : String) : Source → DecodeError
  | .null => .wrongType .null expected
  | .bool b => .wrongType (.bool b) expected
  | .number n => .wrongType (.number n) expected
  | .string s => .wrongType (.string s) expected
  | .array .. => .wrongType .array expected
  | .object .. => .wrongType .object expected
  | .broken _ stop => .fault stop.used
  | .refused fault _ => .fault fault

def text : Decoder String
  | .string s => .ok s
  | source => .error (unexpected "a string" source)

def bool : Decoder Bool
  | .bool b => .ok b
  | source => .error (unexpected "a boolean" source)

def uint32 : Decoder UInt32
  | .number (.integer n h) =>
    if 0 ≤ n ∧ n < 4294967296 then .ok (UInt32.ofNat n.toNat)
    else .error (.outOfRange (.number (.integer n h)) "u32")
  | source => .error (unexpected "u32" source)

def value : Decoder Json := fun source => source.toJson.mapError .fault

def eachItem {α : Type} (decode : Decoder α) : List Source → Except DecodeError (List α)
  | [] => .ok []
  | item :: rest => do return (← decode item) :: (← eachItem decode rest)

def items {α : Type} (decode : Decoder α) : Decoder (List α)
  | .array items stop => do
    let items ← eachItem decode items
    (Source.use stop).mapError .fault
    return items
  | source => .error (unexpected "a sequence" source)

/-- Decodes fields in turn; of a key that repeats the last value counts. -/
def eachField {α : Type} (decode : Decoder α) (done : Entries α) :
    List (SourceKey × Source) → Except DecodeError (Entries α)
  | [] => .ok done
  | (key, source) :: rest => do
    let key ← key.mapError .fault
    eachField decode (Entries.insert key (← decode source) done) rest

def entries {α : Type} (decode : Decoder α) : Decoder (Entries α)
  | .object fields stop => do
    let entries ← eachField decode [] fields
    (Source.use stop).mapError .fault
    return entries
  | source => .error (unexpected "a map" source)

def document : Decoder Document := entries value

def optional {α : Type} (decode : Decoder α) : Decoder (Option α)
  | .null => .ok none
  | source => (decode source).map some

/-- The first of some decoders that succeeds. The source has to be free of faults. -/
def firstOf {α : Type} (type : String) (decoders : List (Decoder α)) : Decoder α := fun source => do
  let _ ← value source
  match decoders.findSome? fun decode => (decode source).toOption with
  | some result => return result
  | none => throw (.noVariant type)

end Decoder

/-! ## Records -/

/-- A field of a record: its name, and how its source changes the record. -/
structure Field (α : Type) where
  name : String
  load : Source → α → Except DecodeError α

namespace Field

def of {α β : Type} (name : String) (decode : Decoder β) (set : α → β → α) : Field α where
  name := name
  load source record := (decode source).map (set record)

end Field

/-- A record: its fields in the order of their declaration, those that have to be present, and its
value before any field is loaded. -/
structure Shape (α : Type) where
  type : String
  fields : List (Field α)
  required : List String
  initial : α

namespace Shape

variable {α : Type}

/-- Loads fields by name. A known field may not repeat. -/
def loadFields (shape : Shape α) :
    (seen : List String) → α → List (SourceKey × Source) → Except DecodeError (List String × α)
  | seen, record, [] => .ok (seen, record)
  | _, _, (.error fault, _) :: _ => .error (.fault fault)
  | seen, record, (.ok key, source) :: rest =>
    match shape.fields.find? fun field => field.name = key with
    | none => do
      source.skip.mapError .fault
      loadFields shape seen record rest
    | some field =>
      if key ∈ seen then .error (.duplicateField key)
      else do loadFields shape (key :: seen) (← field.load source record) rest

/-- Loads fields in their order, and gives the sources that are left. -/
def loadItems : List (Field α) → α → List Source → Except DecodeError (α × List Source)
  | field :: fields, record, item :: rest => do loadItems fields (← field.load item record) rest
  | _, record, rest => .ok (record, rest)

/-- The first required field that was not seen. -/
def missing? (shape : Shape α) (seen : List String) : Option String :=
  shape.required.find? fun name => name ∉ seen

/-- The problem at the end of an array whose items went to all fields, with those that are left. -/
def surplus (origin : Origin) (length : Nat) :
    List Source → Option Stop → Except DecodeError Unit
  | [], none => .ok ()
  | extra, stop =>
    match origin, extra, stop with
    | .value, _, _ => .error (.wrongLength length "fewer elements in array")
    | .text, [], some ⟨.endInArray, _⟩ => .error (.fault .endInArray)
    | .text, [], some ⟨.trailingComma, _⟩ => .error (.fault .trailingComma)
    | .text, _, _ => .error (.fault .trailingText)

def ofFields (shape : Shape α) (fields : List (SourceKey × Source)) (stop : Option Stop) :
    Except DecodeError α := do
  let (seen, record) ← shape.loadFields [] shape.initial fields
  (Source.use stop).mapError .fault
  match shape.missing? seen with
  | some name => throw (.missingField name)
  | none => return record

def ofItems (shape : Shape α) (origin : Origin) (items : List Source) (stop : Option Stop) :
    Except DecodeError α := do
  let (record, extra) ← loadItems shape.fields shape.initial items
  let names := shape.fields.map (·.name)
  if items.length < names.length then (Source.use stop).mapError .fault
  match shape.missing? (names.take items.length) with
  | some name =>
    throw (.wrongLength (names.idxOf name)
      ("struct " ++ shape.type ++ " with " ++ String.ofList (Text.natDigits names.length) ++
        " elements"))
  | none =>
    surplus origin items.length extra stop
    return record

def decode (shape : Shape α) (origin : Origin) : Decoder α
  | .object fields stop => shape.ofFields fields stop
  | .array items stop => shape.ofItems origin items stop
  | source => .error (Decoder.unexpected ("struct " ++ shape.type) source)

end Shape

end ReportQuery.Json
