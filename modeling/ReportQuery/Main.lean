import ReportQuery.Command.Compile
import ReportQuery.Command.PostProcess
import Std.Time

/-!
# The program

The first argument names the command, `compile` or `postprocess`; the others are its arguments.
Files, the input stream and the clock are those of the system.
-/

namespace ReportQuery.Main

open Command (FileFault Outcome World)

def textOf (bytes : ByteArray) : Except FileFault String :=
  match String.fromUTF8? bytes with
  | some text => .ok text
  | none => .error .notUnicode

/-- Why the system does not give a file. -/
def faultOf : IO.Error → FileFault
  | .noFileOrDirectory .. => .missing
  | .inappropriateType _ code _ => if code = 20 then .notFolder else .directory
  | .permissionDenied .. => .forbidden
  | e => .other (toString e)

def readText (read : IO ByteArray) : IO (Except FileFault String) := do
  try return textOf (← read)
  catch e => return .error (faultOf e)

def world : World IO where
  file path := readText (IO.FS.readBinFile path)
  input := do readText (← IO.getStdin).readBinToEnd
  now := do
    let time ← Std.Time.Timestamp.now
    return (Instant.ofNanoseconds? time.toNanosecondsSinceUnixEpoch.val).getD .epoch

def dispatch : List String → IO Outcome
  | "compile" :: arguments => Command.Compile.run world arguments
  | "postprocess" :: arguments => Command.PostProcess.run world arguments
  | _ => return .failure 2 "expected a command: compile or postprocess"

end ReportQuery.Main

open ReportQuery in
def main (arguments : List String) : IO UInt32 := do
  let outcome ← Main.dispatch arguments
  (← IO.getStdout).putStr outcome.output
  (← IO.getStderr).putStr outcome.errors
  return outcome.code.toUInt32
