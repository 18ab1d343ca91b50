import ReportQuery.Pipeline.Compile
import ReportQuery.Rows

/-!
# Running reports

A report is compiled, its pipeline goes to the store once, and the rows that come back are finished
and wrapped with data about the run. The store is any action that answers a collection and a
pipeline.
-/

namespace ReportQuery

/-! ## Stores -/

structure StoreCall where
  collection : String
  stages : List Stage
deriving DecidableEq

/-- The rows of a call, or why there are none. -/
abbrev StoreAnswer := Except String (List Document)

/-- A store whose answers are actions. -/
abbrev Store (m : Type → Type) := StoreCall → m StoreAnswer

/-- A store that answers by a function and keeps a list of its calls. -/
def Store.recording (answer : StoreCall → StoreAnswer) : Store (StateM (List StoreCall)) :=
  fun call => do
    modify (· ++ [call])
    return answer call

/-! ## Results -/

inductive RunError where
  | configuration (reason : ConfigError)
  /-- The store refused a pipeline, or failed. -/
  | store (config : String) (stages : List Stage) (reason : String)
deriving DecidableEq

namespace RunError

def message : RunError → String
  | configuration reason => reason.message
  | store config _ reason => "aggregation `" ++ config ++ "` failed in the store: " ++ reason

/-- The HTTP status that tells a client of the error. -/
def status : RunError → Nat
  | configuration _ => 400
  | store .. => 500

end RunError

/-- Finished rows, with data about the run. -/
structure Response where
  rows : List Document
  config : String
  time : Instant
  /-- The filters as they were given. -/
  filters : Document
deriving DecidableEq

namespace Response

def summary (r : Response) : Document := [
  ("count", Json.ofInt r.rows.length), ("config", .string r.config),
  ("timestamp", .string (String.ofList r.time.toText)), ("filters", .object r.filters)]

end Response

/-! ## Runs -/

namespace Config

/-- The rows as they are shown. Where nothing is asked for they are not gone over. -/
def finishRows (c : Config) (rows : List Document) : List Document :=
  match c.postProcess with
  | some spec => if spec.isEmpty then rows else spec.finish rows
  | none => rows

/-- The result of a run whose pipeline was answered by the store. -/
def conclude (c : Config) (filters : Document) (stages : List Stage) (time : Instant) :
    StoreAnswer → Except RunError Response
  | .error reason => .error (.store c.name stages reason)
  | .ok rows => .ok { rows := c.finishRows rows, config := c.name, time, filters }

/-- A run whose clock shows `start` when the report is compiled and `finish` when its rows are there. -/
def runBetween {m : Type → Type} [Monad m] (discriminators : List String) (start finish : Instant)
    (store : Store m) (config : Config) (filters : Document) : m (Except RunError Response) :=
  match Pipeline.compile discriminators start config filters with
  | .error reason => return .error (.configuration reason)
  | .ok stages => do
    return config.conclude filters stages finish (← store ⟨config.collection, stages⟩)

/-- A run by a clock that stands still. -/
def run {m : Type → Type} [Monad m] (discriminators : List String) (now : Instant) (store : Store m)
    (config : Config) (filters : Document) : m (Except RunError Response) :=
  config.runBetween discriminators now now store filters

end Config

end ReportQuery
