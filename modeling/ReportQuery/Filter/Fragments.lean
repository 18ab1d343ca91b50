import ReportQuery.Config.ArrayPaths
import ReportQuery.Filter.FieldPath
import ReportQuery.Filter.Predicate

/-!
# Match fragments

The filters of a query in two matches: one on whole documents, which starts from the base filter,
and one on the elements of an array. A protected key of the base filter cannot be changed by a
filter.
-/

namespace ReportQuery.Filter

/-- The match on documents and the match on array elements. -/
structure Fragments where
  base : Document
  elements : Document := []
deriving DecidableEq

/-- The logical name whose value may be a range of dates. -/
def dateRangeField : String := "date_range"

/-- One bound of a written range, as operator and operand. -/
def rangeBound (now : Instant) (range : Document) (key operator : String) (bound : DayBound) :
    Document :=
  match Entries.get? key range with
  | none => []
  | some value =>
    if isBlank value then []
    else
      match value with
      | .string raw => [(operator, .string (resolveRangeBound bound now raw))]
      | value => [(operator, value)]

/-- The predicate of a preset's name or of an object with `start` and `end`. -/
def dateRange? (now : Instant) : Json → Option Predicate
  | .string name =>
    (DatePreset.ofName? name).map fun preset => .operators (preset.range now).operators
  | .object range =>
    let ops := rangeBound now range "start" "$gte" .startOfDay ++
      rangeBound now range "end" "$lte" .endOfDay
    if ops.isEmpty then none else some (.operators ops)
  | _ => none

def predicate? (now : Instant) (key : Key) (value : Json) : Option Predicate :=
  if key.field = dateRangeField ∧ key.operator = .eq then
    (dateRange? now value).or (coerce? key.operator now value)
  else coerce? key.operator now value

/-- What the fragments of a configuration depend on. -/
structure Scope where
  baseFilter : Document
  fields : FieldMap
  /-- Keys of the base filter that filters leave alone. -/
  protectedKeys : List String
  now : Instant

namespace Scope

def ofConfig (config : Config) (protectedKeys : List String) (now : Instant) : Scope where
  baseFilter := config.baseFilter
  fields := ⟨config.fieldMappings, config.arrayPaths⟩
  protectedKeys := protectedKeys
  now := now

/-- The path is a protected key of the base filter. -/
def protects (s : Scope) (path : String) : Bool :=
  path ∈ s.protectedKeys && Entries.has path s.baseFilter

/-- The fragments before any filter: the base filter with its placeholders resolved. -/
def start (s : Scope) : Fragments := { base := Json.resolveFields s.now s.baseFilter }

/-- Adds a predicate where its field lives. -/
def place (s : Scope) (field : FieldPath) (predicate : Predicate) (f : Fragments) : Fragments :=
  match field with
  | .element _ path => { f with elements := merge path predicate f.elements }
  | .document path => if s.protects path then f else { f with base := merge path predicate f.base }

def apply (s : Scope) (f : Fragments) (filter : String × Json) : Fragments :=
  let key := Key.ofText filter.1
  match predicate? s.now key filter.2 with
  | none => f
  | some predicate => s.place (s.fields.resolve key.field) predicate f

def fragments (s : Scope) (filters : Document) : Fragments := filters.foldl s.apply s.start

end Scope

end ReportQuery.Filter
