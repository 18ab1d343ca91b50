import ReportQuery.Config.Basic
import ReportQuery.Json.Decode

/-!
# Loading configurations

The shapes of the parts of a configuration. A lookup and an accumulator have several forms, which
are tried in turn: a lookup is correlated, else an equality join, else incomplete.
-/

namespace ReportQuery

open Json (Decoder Field Shape Origin Source Stop DecodeError)

namespace Unwind

def shape : Shape Unwind where
  type := "UnwindSpec"
  fields := [
    .of "path" .text fun u path => { u with path },
    .of "preserveNullAndEmptyArrays" (.optional .bool) fun u preserveEmpty =>
      { u with preserveEmpty }]
  required := ["path"]
  initial := { path := "" }

def decode (origin : Origin) : Decoder Unwind := shape.decode origin

end Unwind

namespace Lookup

def correlatedShape : Shape CorrelatedLookup where
  type := "CorrelatedLookup"
  fields := [
    .of "from" .text fun l collection => { l with collection },
    .of "as" .text fun l output => { l with output },
    .of "let" .document fun l bindings => { l with bindings },
    .of "pipeline" (.items .value) fun l pipeline => { l with pipeline },
    .of "unwind" .bool fun l unwind => { l with unwind }]
  required := ["from", "as", "pipeline"]
  initial := { collection := "", output := "", pipeline := [] }

def equalityShape : Shape EqualityLookup where
  type := "SimpleLookup"
  fields := [
    .of "from" .text fun l collection => { l with collection },
    .of "as" .text fun l output => { l with output },
    .of "localField" .text fun l localField => { l with localField },
    .of "foreignField" .text fun l foreignField => { l with foreignField },
    .of "unwind" .bool fun l unwind => { l with unwind }]
  required := ["from", "as", "localField", "foreignField"]
  initial := { collection := "", output := "", localField := "", foreignField := "" }

def incompleteShape : Shape IncompleteLookup where
  type := "IncompleteLookup"
  fields := [
    .of "from" .text fun l collection => { l with collection },
    .of "as" .text fun l output => { l with output }]
  required := []
  initial := {}

def decode : Decoder Lookup :=
  .firstOf "LookupSpec" [
    fun source => (correlatedShape.decode .value source).map .correlated,
    fun source => (equalityShape.decode .value source).map .equality,
    fun source => (incompleteShape.decode .value source).map .incomplete]

end Lookup

namespace Accumulator

def operatorShape : Shape (String × Json) where
  type := "Accumulator"
  fields := [
    .of "operator" .text fun a name => (name, a.2),
    .of "field" .value fun a operand => (a.1, operand)]
  required := ["operator", "field"]
  initial := ("", .null)

def expressionShape : Shape Json where
  type := "Accumulator"
  fields := [.of "expression" .value fun _ expression => expression]
  required := ["expression"]
  initial := .null

/-- A form that is an object and never an array. -/
def ofObject {α : Type} (shape : Shape α) : Decoder α
  | .object fields stop => shape.ofFields fields stop
  | source => .error (Decoder.unexpected "a map" source)

def decode : Decoder Accumulator :=
  .firstOf "Accumulator" [
    fun source => (Decoder.text source).map .named,
    fun source => (ofObject operatorShape source).map fun (name, operand) => .operator name operand,
    fun source => (ofObject expressionShape source).map .expression,
    fun source => (Decoder.document source).map .raw]

end Accumulator

namespace Grouping

def shape : Shape Grouping where
  type := "GroupBy"
  fields := [
    .of "id" .value fun g id => { g with id },
    .of "fields" (.entries Accumulator.decode) fun g fields => { g with fields }]
  required := []
  initial := {}

def decode (origin : Origin) : Decoder Grouping := shape.decode origin

end Grouping

namespace Calculation

def shape : Shape Calculation where
  type := "Calculation"
  fields := [
    .of "formula" (.optional .text) fun c formula => { c with formula },
    .of "expression" (.optional .value) fun c expression => { c with expression }]
  required := []
  initial := {}

def decode (origin : Origin) : Decoder Calculation := shape.decode origin

end Calculation

namespace FormatKind

def name : FormatKind → String
  | number => "number"
  | currency => "currency"
  | percentage => "percentage"
  | date => "date"

def all : List FormatKind := [number, currency, percentage, date]

def ofName (name : String) : Except DecodeError FormatKind :=
  match all.find? fun kind => kind.name = name with
  | some kind => .ok kind
  | none => .error (.unknownVariant name (all.map FormatKind.name))

/-- A kind that is written as the key of null. -/
def ofField (name : String) (content : Source) : Except DecodeError FormatKind := do
  let kind ← ofName name
  match content with
  | .null => return kind
  | source => throw (Decoder.unexpected "unit" source)

/-- A kind in a text: what is neither a name nor an object is no value, however it goes on, and
nothing but the closing brace may follow the first field of an object. -/
def ofTextSource : Decoder FormatKind
  | .string name => ofName name
  | .object [] stop => .error (.fault ((stop.map Stop.used).getD .keyNotString))
  | .object ((.error fault, _) :: _) _ => .error (.fault fault)
  | .object ((.ok name, content) :: rest) stop => do
    let kind ← ofField name content
    match rest, stop with
    | [], none => return kind
    | [], some ⟨.endInObject, _⟩ => throw (.fault .endInObject)
    | _, _ => throw (.fault .noValue)
  | .broken false stop => .error (.fault stop.used)
  | .refused fault (.string _) => .error (.fault fault)
  | _ => .error (.fault .noValue)

def ofValueSource : Decoder FormatKind
  | .string name => ofName name
  | .object [(.ok name, content)] _ => ofField name content
  | .object .. => .error (.outOfRange .object "map with a single key")
  | source => .error (Decoder.unexpected "string or map" source)

def decode : Origin → Decoder FormatKind
  | .text => ofTextSource
  | .value => ofValueSource

end FormatKind

namespace Format

def shape (origin : Origin) : Shape Format where
  type := "FormatSpec"
  fields := [
    .of "type" (FormatKind.decode origin) fun f kind => { f with kind },
    .of "locale" (.optional .text) fun f locale => { f with locale },
    .of "currency" (.optional .text) fun f currency => { f with currency },
    .of "decimals" (.optional .uint32) fun f decimals => { f with decimals }]
  required := ["type"]
  initial := { kind := .number }

def decode (origin : Origin) : Decoder Format := (shape origin).decode origin

end Format

namespace PostProcess

def shape (origin : Origin) : Shape PostProcess where
  type := "PostProcessSpec"
  fields := [
    .of "calculations" (.entries (Calculation.decode origin)) fun p calculations =>
      { p with calculations },
    .of "formatting" (.entries (Format.decode origin)) fun p formatting => { p with formatting }]
  required := []
  initial := {}

def decode (origin : Origin) : Decoder PostProcess := (shape origin).decode origin

end PostProcess

namespace Config

def shape (origin : Origin) : Shape Config where
  type := "AggregationConfig"
  fields := [
    .of "name" .text fun c name => { c with name },
    .of "collection" .text fun c collection => { c with collection },
    .of "baseFilter" .document fun c baseFilter => { c with baseFilter },
    .of "fieldMappings" (.entries .text) fun c fieldMappings => { c with fieldMappings },
    .of "arrayFields" (.items .text) fun c arrayFields => { c with arrayFields },
    .of "unwind" (.optional (Unwind.decode origin)) fun c unwind => { c with unwind },
    .of "lookups" (.items Lookup.decode) fun c lookups => { c with lookups },
    .of "groupBy" (.optional (Grouping.decode origin)) fun c groupBy => { c with groupBy },
    .of "project" (.optional .value) fun c project => { c with project },
    .of "sort" (.optional .value) fun c sort => { c with sort },
    .of "limit" (.optional .value) fun c limit => { c with limit },
    .of "postProcess" (.optional (PostProcess.decode origin)) fun c postProcess =>
      { c with postProcess },
    .of "pipeline" (.optional (.items .value)) fun c pipeline => { c with pipeline },
    .of "postLookupFilter" (.optional .document) fun c postLookupFilter =>
      { c with postLookupFilter }]
  required := []
  initial := {}

def decode (origin : Origin) : Decoder Config := (shape origin).decode origin

def ofJson (value : Json) : Except DecodeError Config := decode .value (.ofJson value)

def ofText (text : String) : Except DecodeError Config := do
  let (source, more) := Json.readSource text
  let config ← decode .text source
  if more then .error (.fault .trailingText) else return config

end Config

end ReportQuery
