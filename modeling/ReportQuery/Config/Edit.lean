import ReportQuery.Config.Basic

/-!
# Building configurations

Steps that each change one part of a configuration. A filter that is not an object counts as an
empty one.
-/

namespace ReportQuery.Config

/-- A configuration without anything but a name and a collection. -/
def new (name collection : String) : Config := { name, collection }

/-- The fields of an object; nothing for other values. -/
def documentOf (value : Json) : Document := value.fields?.getD []

def withBaseFilter (filter : Json) (c : Config) : Config :=
  { c with baseFilter := documentOf filter }

def withFieldMapping (logical physical : String) (c : Config) : Config :=
  { c with fieldMappings := Entries.insert logical physical c.fieldMappings }

def withArrayField (field : String) (c : Config) : Config :=
  { c with arrayFields := c.arrayFields ++ [field] }

def withUnwind (unwind : Unwind) (c : Config) : Config := { c with unwind := some unwind }

def withLookup (lookup : Lookup) (c : Config) : Config :=
  { c with lookups := c.lookups ++ [lookup] }

/-- Changes the grouping, which begins as an empty one. -/
def changeGrouping (change : Grouping → Grouping) (c : Config) : Config :=
  { c with groupBy := some (change (c.groupBy.getD {})) }

def withGroupId (id : Json) : Config → Config := changeGrouping fun g => { g with id }

def withAccumulator (name : String) (accumulator : Accumulator) : Config → Config :=
  changeGrouping fun g => { g with fields := Entries.insert name accumulator g.fields }

def withProject (project : Json) (c : Config) : Config := { c with project := some project }

def withSort (sort : Json) (c : Config) : Config := { c with sort := some sort }

def withLimit (limit : Json) (c : Config) : Config := { c with limit := some limit }

def withPipeline (stages : List Json) (c : Config) : Config := { c with pipeline := some stages }

def withPostLookupFilter (filter : Json) (c : Config) : Config :=
  { c with postLookupFilter := some (documentOf filter) }

def withPostProcess (spec : PostProcess) (c : Config) : Config :=
  { c with postProcess := some spec }

end ReportQuery.Config

namespace ReportQuery

def Calculation.ofFormula (formula : String) : Calculation := { formula := some formula }

def Calculation.ofExpression (expression : Json) : Calculation := { expression := some expression }

namespace Format

def withLocale (locale : String) (f : Format) : Format := { f with locale := some locale }

def withCurrency (currency : String) (f : Format) : Format := { f with currency := some currency }

def withDecimals (decimals : UInt32) (f : Format) : Format := { f with decimals := some decimals }

end Format

end ReportQuery
