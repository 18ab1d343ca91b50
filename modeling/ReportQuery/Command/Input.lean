import ReportQuery.Calendar.Instant
import ReportQuery.Command.Assignment
import ReportQuery.Config.Decode

/-!
# Input of commands

Configurations, filters and rows from files. A configuration without a name is named after its file;
rows may be wrapped in a response under `data`.
-/

namespace ReportQuery.Command

/-! ## Files -/

inductive FileFault where
  | missing
  | directory
  /-- A part of the path that leads further is no folder. -/
  | notFolder
  | nameTooLong
  | forbidden
  | notUnicode
  | other (message : String)
deriving DecidableEq, Repr

def FileFault.message : FileFault → String
  | missing => "No such file or directory (os error 2)"
  | directory => "Is a directory (os error 21)"
  | notFolder => "Not a directory (os error 20)"
  | nameTooLong => "File name too long (os error 36)"
  | forbidden => "Permission denied (os error 13)"
  | notUnicode => "stream did not contain valid UTF-8"
  | other message => message

/-- What a command reads: files by their path, the input stream, and the clock. -/
structure World (m : Type → Type) where
  file : String → m (Except FileFault String)
  input : m (Except FileFault String)
  now : m Instant

/-- The last part of a path, unless it leads upwards. -/
def fileName? (path : String) : Option (List Char) :=
  let parts := (Text.splitAll '/' path.toList).filter fun part => part ≠ [] && part ≠ ['.']
  match parts.getLast? with
  | some name => if name = ['.', '.'] then none else some name
  | none => none

/-- A file name without its last extension. A point at the start begins no extension. -/
def withoutExtension (name : List Char) : List Char :=
  match (name.reverse.dropWhile (· ≠ '.')).drop 1 with
  | [] => name
  | stem => stem.reverse

/-- The configuration with the name of its file, if it has none of its own. -/
def nameAfter (path : String) (c : Config) : Config :=
  if c.name = "" then
    match fileName? path with
    | some name => { c with name := String.ofList (withoutExtension name) }
    | none => c
  else c

/-! ## Faults -/

inductive InputFault where
  /-- What could not be read, and why. -/
  | unreadable (what : String) (reason : FileFault)
  /-- What was read but is not what it should be, and why. -/
  | invalid (what reason : String)
  | filtersNotObject (path : String)
deriving DecidableEq, Repr

def InputFault.message : InputFault → String
  | unreadable what reason => "failed to read " ++ what ++ ": " ++ reason.message
  | invalid what reason => what ++ ": " ++ reason
  | filtersNotObject path => "filters " ++ path ++ " must be a JSON object"

/-! ## Contents -/

def configOf (path content : String) : Except InputFault Config :=
  match Config.ofText content with
  | .ok config => .ok (nameAfter path config)
  | .error e => .error (.invalid ("invalid config " ++ path) e.message)

def filtersOf (path content : String) : Except InputFault Document :=
  match Json.ofText content with
  | .ok (.object fields) => .ok fields
  | .ok _ => .error (.filtersNotObject path)
  | .error fault => .error (.invalid ("invalid filters " ++ path) fault.message)

/-- The rows in a value, or under its field `data`. -/
def unwrapRows (value : Json) : Json := (value.get? "data").getD value

def rowsOf (content : String) : Except InputFault (List Document) :=
  match Json.ofText content with
  | .error fault => .error (.invalid "rows are not valid JSON" fault.message)
  | .ok value =>
    match Json.Decoder.items Json.Decoder.document (.ofJson (unwrapRows value)) with
    | .ok rows => .ok rows
    | .error e => .error (.invalid "rows must be an array of objects" e.message)

/-! ## Reading -/

variable {m : Type → Type} [Monad m]

/-- What a text holds, by a function on it. -/
def load {α : Type} (what : String) (read : m (Except FileFault String))
    (content : String → Except InputFault α) : ExceptT InputFault m α := do
  let text ← ExceptT.adapt (InputFault.unreadable what) (ExceptT.mk read)
  ExceptT.mk (pure (content text))

def loadConfig (world : World m) (path : String) : ExceptT InputFault m Config :=
  load ("config " ++ path) (world.file path) (configOf path)

/-- The filters of a file, if there is one, with assignments after them. -/
def loadFilters (world : World m) (path : Option String) (more : List Assignment) :
    ExceptT InputFault m Document := do
  let filters ← match path with
    | some path => load ("filters " ++ path) (world.file path) (filtersOf path)
    | none => pure []
  return more.foldl (fun acc a => Entries.insert a.key a.value acc) filters

/-- The rows of a file; without a path, or with `-` as the path, those of the input stream. -/
def loadRows (world : World m) (path : Option String) : ExceptT InputFault m (List Document) :=
  match path.filter (· ≠ "-") with
  | some path => load ("rows " ++ path) (world.file path) rowsOf
  | none => load "rows from stdin" world.input rowsOf

end ReportQuery.Command
