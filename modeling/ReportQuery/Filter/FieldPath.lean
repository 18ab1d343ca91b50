import ReportQuery.Entries
import ReportQuery.Text.Split

/-!
# Field paths

The path of a field that a filter names, and whether it leads into the elements of an array.
-/

namespace ReportQuery.Filter

inductive FieldPath where
  | document (path : String)
  /-- In the elements of an array; the path begins at the element. -/
  | element (array path : String)
deriving DecidableEq, Repr

namespace FieldPath

def isElement : FieldPath → Bool
  | element _ _ => true
  | document _ => false

end FieldPath

/-- How logical field names become paths. -/
structure FieldMap where
  mappings : Entries String
  arrays : List String

namespace FieldMap

/-- The path of a logical name; a name without one is its own path. -/
def physical (m : FieldMap) (logical : String) : String :=
  (Entries.get? logical m.mappings).getD logical

/-- A path leads into an array when the part before its first point is one and more follows. -/
def locate (m : FieldMap) (path : String) : FieldPath :=
  match Text.splitOnce ['.'] path.toList with
  | some (array, rest) =>
    if rest ≠ [] ∧ String.ofList array ∈ m.arrays then
      .element (String.ofList array) (String.ofList rest)
    else .document path
  | none => .document path

def resolve (m : FieldMap) (logical : String) : FieldPath := m.locate (m.physical logical)

end FieldMap

end ReportQuery.Filter
