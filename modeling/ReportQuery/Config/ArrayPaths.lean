import ReportQuery.Config.Basic
import ReportQuery.Stage
import ReportQuery.Text.Split

/-!
# Array paths

The array fields whose elements are filtered after the array is taken apart: the default one, those
a configuration declares, and every array that it takes apart.
-/

namespace ReportQuery.Config

def defaultArrayField : String := "lineItems"

/-- A path without leading `$` signs. -/
def barePath (path : String) : String := String.ofList (Text.trimLeading '$' path.toList)

/-- Adds the bare form of a path, unless it is empty or already there. -/
def addArrayPath (paths : List String) (path : String) : List String :=
  let bare := barePath path
  if bare = "" ∨ bare ∈ paths then paths else paths ++ [bare]

def unwoundPath? (stage : Json) : Option String := (stage.get? "$unwind").bind unwindPath?

/-- Every written path of an array field, in order. -/
def writtenArrayPaths (c : Config) : List String :=
  c.arrayFields ++ (c.unwind.map Unwind.path).toList ++ (c.pipeline.getD []).filterMap unwoundPath?

/-- The array paths, without `$` signs and without duplicates. -/
def arrayPaths (c : Config) : List String :=
  c.writtenArrayPaths.foldl addArrayPath [defaultArrayField]

end ReportQuery.Config
