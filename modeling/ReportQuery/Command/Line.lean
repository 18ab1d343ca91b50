import ReportQuery.Entries
import ReportQuery.Text.Split
import ReportQuery.Text.Terminal

/-!
# Command lines

The arguments of a command are options and positional arguments, in any order. An option is named by
a word after two hyphens or by a letter after one; its value follows it, is joined to the word by an
equals sign, or stands right after the letter. After a lone `--` all arguments are positional.

A value that stands apart from its option is checked when the next argument has been recognized, so
that an unknown argument is told of before a bad value in front of it.
-/

namespace ReportQuery.Command

/-! ## Descriptions -/

inductive ValueFault where
  | empty
  | invalid (reason : String)
deriving DecidableEq, Repr

inductive Purpose where
  /-- Being there is all it says. -/
  | flag
  /-- It has a value with a name. It may be given only once unless it repeats. -/
  | value (name : String) (repeats : Bool) (check : String → Except ValueFault Unit)
  | help
  | version

structure Switch where
  long : String
  short : Option Char := none
  purpose : Purpose

namespace Switch

def shown (o : Switch) : String :=
  match o.purpose with
  | .value name _ _ => "--" ++ o.long ++ " <" ++ name ++ ">"
  | _ => "--" ++ o.long

def takesValue (o : Switch) : Bool :=
  match o.purpose with
  | .value .. => true
  | _ => false

def repeats (o : Switch) : Bool :=
  match o.purpose with
  | .value _ repeats _ => repeats
  | _ => false

end Switch

structure Positional where
  name : String
  required : Bool

namespace Positional

def shown (p : Positional) : String :=
  if p.required then "<" ++ p.name ++ ">" else "[" ++ p.name ++ "]"

end Positional

structure Signature where
  switches : List Switch
  positionals : List Positional

namespace Signature

def byLong? (s : Signature) (name : String) : Option Switch :=
  s.switches.find? fun o => o.long = name

def byShort? (s : Signature) (letter : Char) : Option Switch :=
  s.switches.find? fun o => o.short = some letter

end Signature

/-! ## Faults -/

inductive LineFault where
  | unexpectedArgument (argument : String)
  | unexpectedValue (value shown : String)
  | missingValue (shown : String)
  | invalidValue (value shown reason : String)
  | givenTwice (shown : String)
  | missingArguments (shown : List String)
deriving DecidableEq, Repr

namespace LineFault

/-- What a message is about, in quotes and bold. -/
def quoted (text : String) : String := "'" ++ Text.bold text ++ "'"

def message : LineFault → String
  | unexpectedArgument argument => "unexpected argument " ++ quoted argument ++ " found"
  | unexpectedValue value shown =>
    "unexpected value " ++ quoted value ++ " for " ++ quoted shown ++
      " found; no more were expected"
  | missingValue shown => "a value is required for " ++ quoted shown ++ " but none was supplied"
  | invalidValue value shown reason =>
    "invalid value " ++ quoted value ++ " for " ++ quoted shown ++ ": " ++ reason
  | givenTwice shown => "the argument " ++ quoted shown ++ " cannot be used multiple times"
  | missingArguments shown =>
    "the following required arguments were not provided:" ++
      String.join (shown.map fun name => "\n  " ++ Text.bold name)

def ofValue (value shown : String) : ValueFault → LineFault
  | .empty => missingValue shown
  | .invalid reason => invalidValue value shown reason

end LineFault

/-- Why reading a command line ends before its end. -/
inductive Halt where
  | help
  | version
  | fault (fault : LineFault)

/-! ## Reading -/

/-- What a command line gives: the values of its options by name, the flags under the empty value,
and its positional arguments. -/
structure Given where
  options : Entries String := []
  positionals : List String := []
deriving DecidableEq

namespace Given

def has (g : Given) (name : String) : Bool := Entries.has name g.options

/-- All values of an option, in order. -/
def values (g : Given) (name : String) : List String :=
  (g.options.filter fun (long, _) => long = name).map Prod.snd

/-- The only value of an option that does not repeat. -/
def value? (g : Given) (name : String) : Option String := (g.values name).head?

end Given

/-- What has been recognized and not yet checked. -/
inductive Pending where
  | nothing
  | option (switch : Switch) (value : Option String)
  | positional (argument : Positional) (value : String)

/-- How far reading has come. -/
structure Progress where
  given : Given := {}
  pending : Pending := .nothing
  /-- The positional arguments that may still come. -/
  expected : List Positional

namespace Progress

/-- Notes an option with a value. -/
def takeValue (p : Progress) (o : Switch) (value : String) : Except Halt Progress := do
  if !o.repeats && p.given.has o.long then throw (.fault (.givenTwice o.shown))
  match o.purpose with
  | .value _ _ check =>
    match check value with
    | .error fault => throw (.fault (.ofValue value o.shown fault))
    | .ok () => pure ()
  | _ => pure ()
  return { p with given := { p.given with options := p.given.options ++ [(o.long, value)] } }

/-- Checks what is pending. A positional argument may not be empty. -/
def settle (p : Progress) : Except Halt Progress :=
  let settled := { p with pending := .nothing }
  match p.pending with
  | .nothing => .ok settled
  | .option o none => .error (.fault (.missingValue o.shown))
  | .option o (some value) => settled.takeValue o value
  | .positional argument value =>
    if value = "" then .error (.fault (.missingValue argument.shown))
    else .ok { settled with given :=
      { settled.given with positionals := settled.given.positionals ++ [value] } }

/-- Notes a switch without a value. -/
def takeFlag (p : Progress) (o : Switch) : Except Halt Progress := do
  let p ← p.settle
  match o.purpose with
  | .help => throw .help
  | .version => throw .version
  | _ => p.takeValue o ""

/-- Notes an option with a value that is joined to it. -/
def takeJoined (p : Progress) (o : Switch) (value : String) : Except Halt Progress := do
  (← p.settle).takeValue o value

/-- Notes an option whose value is still to come. -/
def await (p : Progress) (o : Switch) : Except Halt Progress := do
  return { ← p.settle with pending := .option o none }

/-- Notes an argument that names no option: the value that is waited for, or a positional one. -/
def takePlain (p : Progress) (argument : String) : Except Halt Progress :=
  match p.pending, p.expected with
  | .option o none, _ => .ok { p with pending := .option o (some argument) }
  | _, [] => .error (.fault (.unexpectedArgument argument))
  | _, next :: rest => do
    return { ← p.settle with pending := .positional next argument, expected := rest }

/-- Notes an argument after the lone `--`. -/
def takePositional (p : Progress) (argument : String) : Except Halt Progress :=
  match p.expected with
  | [] => .error (.fault (.unexpectedArgument argument))
  | next :: rest => do
    return { ← p.settle with pending := .positional next argument, expected := rest }

def readLong (s : Signature) (p : Progress) (word : List Char) : Except Halt Progress :=
  let (name, joined) :=
    match Text.splitOnce ['='] word with
    | some (name, value) => (String.ofList name, some (String.ofList value))
    | none => (String.ofList word, none)
  match s.byLong? name, joined with
  | none, _ => .error (.fault (.unexpectedArgument ("--" ++ name)))
  | some o, none => if o.takesValue then p.await o else p.takeFlag o
  | some o, some value =>
    if o.takesValue then p.takeJoined o value else .error (.fault (.unexpectedValue value o.shown))

/-- Reads letters after one hyphen. What follows the letter of an option is its value. -/
def readShort (s : Signature) (p : Progress) : List Char → Except Halt Progress
  | [] => .ok p
  | letter :: rest =>
    match s.byShort? letter with
    | none => .error (.fault (.unexpectedArgument (String.ofList ['-', letter])))
    | some o =>
      if o.takesValue then
        match rest with
        | [] => p.await o
        | '=' :: value => p.takeJoined o (String.ofList value)
        | value => p.takeJoined o (String.ofList value)
      else do readShort s (← p.takeFlag o) rest

def readArgument (s : Signature) (p : Progress) (argument : String) : Except Halt Progress :=
  match argument.toList with
  | '-' :: '-' :: word => p.readLong s word
  | '-' :: letter :: rest => p.readShort s (letter :: rest)
  | _ => p.takePlain argument

def readAll (s : Signature) (p : Progress) : List String → Except Halt Progress
  | [] => .ok p
  | "--" :: rest => rest.foldlM takePositional p
  | argument :: rest => do readAll s (← p.readArgument s argument) rest

end Progress

namespace Signature

def read (s : Signature) (arguments : List String) : Except Halt Given := do
  let p ← Progress.readAll s { expected := s.positionals } arguments
  let p ← p.settle
  let missing := p.expected.filter Positional.required
  if missing.isEmpty then return p.given
  else throw (.fault (.missingArguments (missing.map Positional.shown)))

end Signature

end ReportQuery.Command
