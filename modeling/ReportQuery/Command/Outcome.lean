import ReportQuery.Command.Line
import ReportQuery.Json.Printer

/-!
# Outcomes of commands

What a command leaves behind: its exit code and what it writes. Zero is success, one a configuration
that cannot be compiled, and two any other failure.
-/

namespace ReportQuery.Command

structure Outcome where
  code : UInt8
  output : String := ""
  errors : String := ""
deriving DecidableEq, Repr

namespace Outcome

def failure (code : UInt8) (message : String) : Outcome :=
  { code, errors := "error: " ++ message ++ "\n" }

/-- Success with a value on the output, indented if it is to be read by people. -/
def value (pretty : Bool) (value : Json) : Outcome :=
  { code := 0, output := (if pretty then value.toIndentedText else value.toText) ++ "\n" }

def versionText : String := "pipewright 0.4.0\n"

/-- What follows the message of a fault, for a terminal. -/
def hint : String := "\n\nFor more information, try " ++ LineFault.quoted "--help" ++ "."

/-- A command line that asks for nothing more or is at fault. What a message quotes may hold control
sequences; they are left out of it, as there is no terminal. -/
def ofHalt (usage : String) : Halt → Outcome
  | .help => { code := 0, output := usage }
  | .version => { code := 0, output := versionText }
  | .fault fault =>
    let written := "error: " ++ fault.message ++ hint ++ "\n"
    { code := 2, errors := String.ofList (Text.plain written.toList) }

end Outcome

/-! ## Checks of values -/

/-- The value of a path may not be empty. -/
def checkPath (value : String) : Except ValueFault Unit :=
  if value = "" then .error .empty else .ok ()

def checkText (_ : String) : Except ValueFault Unit := .ok ()

/-! ## Switches of all commands -/

def prettySwitch : Switch := { long := "pretty", purpose := .flag }

def verboseSwitch : Switch := { long := "verbose", short := some 'v', purpose := .flag }

def helpSwitch : Switch := { long := "help", short := some 'h', purpose := .help }

def versionSwitch : Switch := { long := "version", short := some 'V', purpose := .version }

def configArgument : Positional := { name := "CONFIG", required := true }

end ReportQuery.Command
