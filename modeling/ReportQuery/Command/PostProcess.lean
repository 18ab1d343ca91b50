import ReportQuery.Command.Input
import ReportQuery.Command.Outcome
import ReportQuery.Execution

/-!
# The post-process command

Finishes rows as a configuration asks, and writes them.
-/

namespace ReportQuery.Command.PostProcess

def signature : Signature where
  switches := [prettySwitch, verboseSwitch, helpSwitch, versionSwitch]
  positionals := [configArgument, { name := "ROWS", required := false }]

def usage : String := "Usage: postprocess [OPTIONS] <CONFIG> [ROWS]\n"

structure Arguments where
  config : String
  /-- A file with rows; without one they come from the input stream. -/
  rows : Option String
  pretty : Bool

def Arguments.ofGiven (g : Given) : Arguments where
  config := g.positionals.headD ""
  rows := g.positionals[1]?
  pretty := g.has "pretty"

variable {m : Type → Type} [Monad m]

def perform (world : World m) (a : Arguments) : ExceptT InputFault m Outcome := do
  let config ← loadConfig world a.config
  let rows ← loadRows world a.rows
  return .value a.pretty (.array ((config.finishRows rows).map .object))

def run (world : World m) (arguments : List String) : m Outcome :=
  match signature.read arguments with
  | .error halt => return .ofHalt usage halt
  | .ok given => do
    match ← (perform world (.ofGiven given)).run with
    | .ok outcome => return outcome
    | .error fault => return .failure 2 fault.message

end ReportQuery.Command.PostProcess
