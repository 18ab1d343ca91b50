import ReportQuery.Command.Input

/-!
# Folders

Text files by their path from a folder. A path is followed part by part: nothing can stand behind a
file, a part that names nothing is missing, and a path that ends at a folder cannot be read. What
stands above the folder is not known.
-/

namespace ReportQuery.Command

/-- Files with their contents. The path of a file in a folder inside this one leads through it. -/
abbrev Folder := Entries String

namespace Folder

inductive Place where
  | file (content : String)
  /-- A folder, by the parts of its path. -/
  | folder (parts : List (List Char))
  /-- A folder above. -/
  | above
deriving DecidableEq

def partsOf (path : String) : List (List Char) := Text.splitAll '/' path.toList

/-- What stands under the parts of a path. -/
def lookup (files : Folder) (parts : List (List Char)) : Except FileFault Place :=
  match files.find? fun (path, _) => partsOf path = parts with
  | some (_, content) => .ok (.file content)
  | none =>
    if files.any fun (path, _) => parts.isPrefixOf (partsOf path) then .ok (.folder parts)
    else .error .missing

/-- The most bytes of a name. -/
def maxName : Nat := 255

def step (files : Folder) (place : Place) (part : List Char) : Except FileFault Place :=
  match place with
  | .file _ => .error .notFolder
  | .above =>
    if part = [] ∨ part = ['.'] ∨ part = ['.', '.'] then .ok .above else .error .missing
  | .folder parts =>
    if part = [] ∨ part = ['.'] then .ok place
    else if part = ['.', '.'] then .ok (if parts = [] then .above else .folder parts.dropLast)
    else if maxName < Text.byteLength part then .error .nameTooLong
    else lookup files (parts ++ [part])

def read (files : Folder) (path : String) : Except FileFault String := do
  if path = "" then throw .missing
  let start := if path.toList.head? = some '/' then .above else .folder []
  match ← (partsOf path).foldlM (step files) start with
  | .file content => return content
  | _ => throw .directory

end Folder

end ReportQuery.Command
