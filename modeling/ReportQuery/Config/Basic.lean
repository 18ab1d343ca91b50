import ReportQuery.Json.Basic

/-!
# Report configurations

What a report asks of the store: the documents it is about, how filters name their fields, joins,
grouping, and how the rows are shown.
-/

namespace ReportQuery

structure Unwind where
  path : String
  /-- Keep documents whose array is missing or empty. -/
  preserveEmpty : Option Bool := none
deriving DecidableEq

namespace Unwind

/-- The path with a `$` before it. -/
def fieldRef (u : Unwind) : String :=
  if u.path.toList.head? = some '$' then u.path else "$" ++ u.path

end Unwind

/-- A join on a local and a foreign field. -/
structure EqualityLookup where
  collection : String
  output : String
  localField : String
  foreignField : String
  unwind : Bool := false
deriving DecidableEq

/-- A join by a pipeline over the foreign collection, with variables bound from the document. -/
structure CorrelatedLookup where
  collection : String
  output : String
  bindings : Document := []
  pipeline : List Json
  unwind : Bool := false
deriving DecidableEq

/-- A join that names neither fields nor a pipeline. -/
structure IncompleteLookup where
  collection : String := ""
  output : String := ""
deriving DecidableEq

inductive Lookup where
  | correlated (lookup : CorrelatedLookup)
  | equality (lookup : EqualityLookup)
  | incomplete (lookup : IncompleteLookup)
deriving DecidableEq

namespace Lookup

def collection : Lookup → String
  | correlated l => l.collection
  | equality l => l.collection
  | incomplete l => l.collection

/-- The field that gets the joined documents. -/
def output : Lookup → String
  | correlated l => l.output
  | equality l => l.output
  | incomplete l => l.output

def unwind : Lookup → Bool
  | correlated l => l.unwind
  | equality l => l.unwind
  | incomplete _ => false

end Lookup

/-- How a group sums up its documents in one output field. -/
inductive Accumulator where
  /-- A reduction over the constant one. -/
  | named (name : String)
  | operator (name : String) (operand : Json)
  /-- A complete accumulator. -/
  | expression (expression : Json)
  /-- Any other object, taken for a complete accumulator. -/
  | raw (fields : Document)
deriving DecidableEq

structure Grouping where
  id : Json := .null
  fields : Entries Accumulator := []
deriving DecidableEq

/-- A calculated field of a row. A formula goes before an expression. -/
structure Calculation where
  formula : Option String := none
  expression : Option Json := none
deriving DecidableEq

inductive FormatKind where
  | number
  | currency
  | percentage
  | date
deriving DecidableEq, Repr

structure Format where
  kind : FormatKind
  locale : Option String := none
  currency : Option String := none
  decimals : Option UInt32 := none
deriving DecidableEq

structure PostProcess where
  calculations : Entries Calculation := []
  formatting : Entries Format := []
deriving DecidableEq

namespace PostProcess

def isEmpty (p : PostProcess) : Bool := p.calculations.isEmpty && p.formatting.isEmpty

end PostProcess

structure Config where
  name : String := ""
  collection : String := ""
  /-- The predicate that every query has. -/
  baseFilter : Document := []
  /-- The path of each logical filter name. -/
  fieldMappings : Entries String := []
  /-- Array fields whose elements are filtered after they are taken apart. -/
  arrayFields : List String := []
  unwind : Option Unwind := none
  lookups : List Lookup := []
  groupBy : Option Grouping := none
  project : Option Json := none
  sort : Option Json := none
  limit : Option Json := none
  postProcess : Option PostProcess := none
  /-- Stages written by hand, which replace the declared ones. -/
  pipeline : Option (List Json) := none
  postLookupFilter : Option Document := none
deriving DecidableEq

end ReportQuery
