import ReportQuery.Config.Decode

/-!
# Writing configurations

A configuration as a JSON value with its parts in a fixed order. Name, collection, base filter and
field mappings are always written; of the others, an empty one is left out.
-/

namespace ReportQuery

namespace Json

def ofUInt32 (n : UInt32) : Json :=
  .number (.integer n.toNat ⟨by omega, by have := n.toNat_lt; omega⟩)

/-- A field for a value that is there. -/
def field? {α : Type} (name : String) (encode : α → Json) : Option α → Document
  | some value => [(name, encode value)]
  | none => []

/-- A field for a list that is not empty. -/
def fieldOfList {α : Type} (name : String) (encode : α → Json) : List α → Document
  | [] => []
  | items => [(name, .array (items.map encode))]

def ofEntries {α : Type} (encode : α → Json) (entries : Entries α) : Json :=
  .object (Entries.mapValues (fun _ value => encode value) entries)

end Json

namespace Unwind

def toJson (u : Unwind) : Json :=
  .object (("path", .string u.path) ::
    Json.field? "preserveNullAndEmptyArrays" .bool u.preserveEmpty)

end Unwind

namespace Lookup

def toJson : Lookup → Json
  | correlated l => .object [
      ("from", .string l.collection), ("as", .string l.output), ("let", .object l.bindings),
      ("pipeline", .array l.pipeline), ("unwind", .bool l.unwind)]
  | equality l => .object [
      ("from", .string l.collection), ("as", .string l.output),
      ("localField", .string l.localField), ("foreignField", .string l.foreignField),
      ("unwind", .bool l.unwind)]
  | incomplete l => .object [("from", .string l.collection), ("as", .string l.output)]

end Lookup

namespace Accumulator

def toJson : Accumulator → Json
  | named name => .string name
  | operator name operand => .object [("operator", .string name), ("field", operand)]
  | expression e => .object [("expression", e)]
  | raw fields => .object fields

end Accumulator

namespace Grouping

def toJson (g : Grouping) : Json :=
  .object [("id", g.id), ("fields", Json.ofEntries Accumulator.toJson g.fields)]

end Grouping

namespace Calculation

def toJson (c : Calculation) : Json :=
  .object (Json.field? "formula" .string c.formula ++ Json.field? "expression" id c.expression)

end Calculation

namespace Format

def toJson (f : Format) : Json :=
  .object (("type", .string f.kind.name) :: Json.field? "locale" .string f.locale ++
    Json.field? "currency" .string f.currency ++ Json.field? "decimals" Json.ofUInt32 f.decimals)

end Format

namespace PostProcess

def toJson (p : PostProcess) : Json :=
  .object [("calculations", Json.ofEntries Calculation.toJson p.calculations),
    ("formatting", Json.ofEntries Format.toJson p.formatting)]

end PostProcess

namespace Config

def toJson (c : Config) : Json :=
  .object (
    [("name", .string c.name), ("collection", .string c.collection),
      ("baseFilter", .object c.baseFilter),
      ("fieldMappings", Json.ofEntries .string c.fieldMappings)] ++
    Json.fieldOfList "arrayFields" .string c.arrayFields ++
    Json.field? "unwind" Unwind.toJson c.unwind ++
    Json.fieldOfList "lookups" Lookup.toJson c.lookups ++
    Json.field? "groupBy" Grouping.toJson c.groupBy ++
    Json.field? "project" id c.project ++
    Json.field? "sort" id c.sort ++
    Json.field? "limit" id c.limit ++
    Json.field? "postProcess" PostProcess.toJson c.postProcess ++
    Json.field? "pipeline" .array c.pipeline ++
    Json.field? "postLookupFilter" .object c.postLookupFilter)

end Config

end ReportQuery
