import ReportQuery.Filter.Fragments

/-!
# Assembling pipelines

The order of stages. A configuration with a template keeps it behind the base match, and the match
on array elements comes after its first unwind stage. Without a template the stages are built in a
fixed order: match, unwind with the match on its elements, lookups, the match after them, group,
project, sort and limit.
-/

namespace ReportQuery

open ReportQuery.Filter (Fragments)

inductive ConfigError where
  /-- The base filter does not say which documents the report is about. -/
  | missingDiscriminator (config : String) (expected : List String)
  /-- A stage of the template is none. -/
  | invalidStage (config : String) (index : Nat) (reason : StageError)
deriving DecidableEq, Repr

namespace ConfigError

def message : ConfigError → String
  | missingDiscriminator config expected =>
    "aggregation `" ++ config ++
      "`: baseFilter must contain a document-type discriminator (one of: " ++
      String.intercalate ", " expected ++ ")"
  | invalidStage config index reason =>
    "aggregation `" ++ config ++ "`: pipeline stage " ++ String.ofList (Text.natDigits index) ++
      " is invalid: " ++ reason.message

end ConfigError

/-- A lookup that has no stage, since it names no form of join. -/
structure LookupError where
  index : Nat
  collection : String
  output : String
deriving DecidableEq, Repr

def LookupError.message (e : LookupError) : String :=
  "lookup " ++ String.ofList (Text.natDigits e.index) ++ " (from `" ++ e.collection ++ "` as `" ++
    e.output ++ "`) has neither localField/foreignField nor let/pipeline"

/-! ## Bodies -/

/-- The body of an unwind stage: a path, with options if the configuration gives any. -/
def Unwind.body (u : Unwind) : Json :=
  match u.preserveEmpty with
  | some preserve =>
    .object [("path", .string u.fieldRef), ("preserveNullAndEmptyArrays", .bool preserve)]
  | none => .string u.fieldRef

/-- The stage of a lookup, with the placeholders of its pipeline resolved. -/
def Lookup.stage (now : Instant) (index : Nat) : Lookup → Except LookupError Stage
  | equality l => .ok (.lookup [
      ("from", .string l.collection), ("localField", .string l.localField),
      ("foreignField", .string l.foreignField), ("as", .string l.output)])
  | correlated l => .ok (.lookup [
      ("from", .string l.collection), ("let", .object l.bindings),
      ("pipeline", .array (Json.resolveItems now none l.pipeline)), ("as", .string l.output)])
  | incomplete l => .error ⟨index, l.collection, l.output⟩

/-- The stages of a lookup: none if it is incomplete, and an unwind after it if it asks for one. -/
def Lookup.stages (now : Instant) (index : Nat) (lookup : Lookup) : List Stage :=
  match lookup.stage now index with
  | .error _ => []
  | .ok stage =>
    if lookup.unwind then [stage, .unwind (.string ("$" ++ lookup.output))] else [stage]

/-- One accumulator of one operand. The operator has one `$` before it. -/
def Accumulator.single (operator : String) (operand : Json) : Json :=
  .object [("$" ++ Config.barePath operator, operand)]

/-- The accumulator in the store's own form. A count is a sum of ones. -/
def Accumulator.body : Accumulator → Json
  | named name => if Config.barePath name = "count" then single "sum" .one else single name .one
  | operator name operand => single name operand
  | expression e => e
  | raw fields => .object fields

/-- The body of a group stage: the grouping key under `_id`, then each output field. -/
def Grouping.body (g : Grouping) : Document :=
  g.fields.foldl (fun body (name, accumulator) => Entries.insert name accumulator.body body)
    [("_id", g.id)]

/-! ## Order -/

namespace Pipeline

/-- The match on array elements, if it asks anything. -/
def elementMatch (elements : Document) : List Stage :=
  if elements.isEmpty then [] else [.filter elements]

/-- The stages of a template from an index on. The pending stages come after the first unwind. -/
def ofTemplate (config : String) (pending : List Stage) (index : Nat) :
    List Json → Except ConfigError (List Stage)
  | [] => .ok []
  | doc :: rest =>
    match Stage.ofJson doc with
    | .error reason => .error (.invalidStage config index reason)
    | .ok stage => do
      if stage.isUnwind then
        return stage :: pending ++ (← ofTemplate config [] (index + 1) rest)
      else return stage :: (← ofTemplate config pending (index + 1) rest)

/-- The stages of lookups from an index on. -/
def ofLookups (now : Instant) (index : Nat) : List Lookup → List Stage
  | [] => []
  | lookup :: rest => lookup.stages now index ++ ofLookups now (index + 1) rest

/-- The stages that a configuration declares. -/
def declared (now : Instant) (config : Config) (f : Fragments) : List Stage :=
  .filter f.base ::
    (match config.unwind with
      | some unwind => .unwind unwind.body :: elementMatch f.elements
      | none => []) ++
    ofLookups now 0 config.lookups ++
    (config.postLookupFilter.map fun filter => .filter (Json.resolveFields now filter)).toList ++
    (config.groupBy.map fun group => .group group.body).toList ++
    (config.project.map .project).toList ++
    (config.sort.map .sort).toList ++
    (config.limit.map .limit).toList

def assemble (now : Instant) (config : Config) (f : Fragments) : Except ConfigError (List Stage) :=
  match config.pipeline with
  | some template => do
    return .filter f.base ::
      (← ofTemplate config.name (elementMatch f.elements) 0 (Json.resolveItems now none template))
  | none => .ok (declared now config f)

theorem assemble_of_template {config : Config} {template : List Json}
    (h : config.pipeline = some template) (now : Instant) (f : Fragments) :
    assemble now config f =
      (ofTemplate config.name (elementMatch f.elements) 0
        (Json.resolveItems now none template)).map (.filter f.base :: ·) := by
  unfold assemble
  rw [h]
  rfl

theorem assemble_of_declared {config : Config} (h : config.pipeline = none) (now : Instant)
    (f : Fragments) : assemble now config f = .ok (declared now config f) := by
  unfold assemble
  rw [h]

end Pipeline

end ReportQuery
