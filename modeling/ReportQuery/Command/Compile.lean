import ReportQuery.Command.Input
import ReportQuery.Command.Outcome
import ReportQuery.Pipeline.Compile
import ReportQuery.Pipeline.Json

/-!
# The compile command

Writes the pipeline of a configuration and filters.
-/

namespace ReportQuery.Command.Compile

/-! ## Arguments -/

def checkAssignment (value : String) : Except ValueFault Unit :=
  match Assignment.ofText value with
  | .ok _ => .ok ()
  | .error fault => .error (.invalid (fault.message value))

def checkInstant (value : String) : Except ValueFault Unit :=
  match Instant.ofText value.toList with
  | .ok _ => .ok ()
  | .error e => .error (.invalid (e.messageAbout value))

def signature : Signature where
  switches := [
    { long := "filters", purpose := .value "FILE" false checkPath },
    { long := "filter", short := some 'F', purpose := .value "KEY=VALUE" true checkAssignment },
    { long := "now", purpose := .value "RFC3339" false checkInstant },
    { long := "discriminator", purpose := .value "KEY" true checkText },
    prettySwitch, verboseSwitch, helpSwitch, versionSwitch]
  positionals := [configArgument]

def usage : String := "Usage: compile [OPTIONS] <CONFIG>\n"

structure Arguments where
  config : String
  filters : Option String
  /-- Filters that go before those of the file. -/
  assignments : List Assignment
  /-- The instant in place of the clock's. -/
  now : Option Instant
  /-- The keys in place of the default discriminators, if there are any. -/
  discriminators : List String
  pretty : Bool

def Arguments.ofGiven (g : Given) : Arguments where
  config := g.positionals.headD ""
  filters := g.value? "filters"
  assignments := (g.values "filter").filterMap fun text => (Assignment.ofText text).toOption
  now := (g.value? "now").bind fun text => Instant.ofText? text.toList
  discriminators := g.values "discriminator"
  pretty := g.has "pretty"

namespace Arguments

def keys (a : Arguments) : List String :=
  if a.discriminators.isEmpty then Pipeline.defaultDiscriminators else a.discriminators

def outcome (a : Arguments) (now : Instant) (config : Config) (filters : Document) : Outcome :=
  match Pipeline.compile a.keys now config filters with
  | .ok stages => .value a.pretty (Pipeline.toJson stages)
  | .error e => .failure 1 e.message

end Arguments

/-! ## Runs -/

variable {m : Type → Type} [Monad m]

def perform (world : World m) (a : Arguments) : ExceptT InputFault m Outcome := do
  let config ← loadConfig world a.config
  let filters ← loadFilters world a.filters a.assignments
  let now ← match a.now with
    | some now => pure now
    | none => world.now
  return a.outcome now config filters

def run (world : World m) (arguments : List String) : m Outcome :=
  match signature.read arguments with
  | .error halt => return .ofHalt usage halt
  | .ok given => do
    match ← (perform world (.ofGiven given)).run with
    | .ok outcome => return outcome
    | .error fault => return .failure 2 fault.message

end ReportQuery.Command.Compile
