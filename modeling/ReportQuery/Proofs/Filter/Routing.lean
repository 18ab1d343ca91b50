import Mathlib.Data.Fintype.EquivFin
import ReportQuery.Filter.Fragments

/-!
# Which fields are in array elements

A path is cut at its first point, so it leads into an array exactly when the part before that point
is one. An array whose own path has a point is therefore never found, and its fields are taken for
fields of the document unless the path goes through another array first.

Main statement: `routing_agrees_iff`.
-/

namespace ReportQuery.Filter

/-! ## Paths and arrays -/

/-- The path is that of a field in the elements of one of the arrays. -/
def Inside (arrays : List String) (path : String) : Prop :=
  ∃ array ∈ arrays, ∃ rest, rest ≠ "" ∧ path = array ++ "." ++ rest

/-- The arrays that are fields of the document itself. -/
def topLevel (arrays : List String) : List String := arrays.filter fun array => '.' ∉ array.toList

/-- The array is in an array that is a field of the document itself. -/
def Below (arrays : List String) (array : String) : Prop :=
  ∃ top ∈ topLevel arrays, ∃ rest, array = top ++ "." ++ rest

theorem inside_of_inside_topLevel {arrays : List String} {path : String}
    (h : Inside (topLevel arrays) path) : Inside arrays path := by
  obtain ⟨array, harray, hpath⟩ := h
  exact ⟨array, (List.mem_filter.1 harray).1, hpath⟩

theorem eq_append_point_iff {path array rest : String} :
    path = array ++ "." ++ rest ↔ path.toList = array.toList ++ '.' :: rest.toList := by
  rw [← String.toList_inj]
  simp [String.toList_append]

theorem inside_topLevel_append {arrays : List String} {array rest : String} (hrest : rest ≠ "")
    (h : array ∈ topLevel arrays ∨ Below arrays array) :
    Inside (topLevel arrays) (array ++ "." ++ rest) := by
  rcases h with htop | ⟨top, htop, between, rfl⟩
  · exact ⟨array, htop, rest, hrest, rfl⟩
  · refine ⟨top, htop, between ++ "." ++ rest, ?_, ?_⟩
    · simp [hrest]
    · simp only [String.append_assoc]

theorem below_of_inside_topLevel {arrays : List String} {array rest : String}
    (hpoint : '.' ∈ array.toList) (h : Inside (topLevel arrays) (array ++ "." ++ rest)) :
    Below arrays array := by
  obtain ⟨top, htop, below, -, hpath⟩ := h
  obtain ⟨before, after, harray, hbefore⟩ := List.eq_append_cons_of_mem hpoint
  have htopPoint : '.' ∉ top.toList := by simpa using (List.mem_filter.1 htop).2
  -- Both cuts are at the first point.
  have hcut : Text.splitOnce ['.'] (array ++ "." ++ rest).toList =
      some (before, after ++ '.' :: rest.toList) := by
    refine Text.splitOnce_singleton_eq_some_iff.2 ⟨?_, hbefore⟩
    rw [eq_append_point_iff.1 rfl, harray, List.append_assoc, List.cons_append]
  rw [Text.splitOnce_singleton_eq_some_iff.2 ⟨eq_append_point_iff.1 hpath, htopPoint⟩] at hcut
  obtain ⟨rfl, -⟩ := Prod.mk.inj (Option.some.inj hcut)
  refine ⟨top, htop, String.ofList after, eq_append_point_iff.2 ?_⟩
  rw [harray, String.toList_ofList]

/-! ## Finding the array of a path -/

namespace FieldMap

variable {m : FieldMap} {path : String}

theorem locate_of_cut {array rest : List Char}
    (h : Text.splitOnce ['.'] path.toList = some (array, rest)) :
    m.locate path =
      if rest ≠ [] ∧ String.ofList array ∈ m.arrays then
        .element (String.ofList array) (String.ofList rest)
      else .document path := by
  unfold locate
  rw [h]

theorem locate_of_no_cut (h : Text.splitOnce ['.'] path.toList = none) :
    m.locate path = .document path := by
  unfold locate
  rw [h]

theorem locate_eq_element_iff {array rest : String} :
    m.locate path = .element array rest ↔
      array ∈ m.arrays ∧ '.' ∉ array.toList ∧ rest ≠ "" ∧ path = array ++ "." ++ rest := by
  rw [eq_append_point_iff]
  constructor
  · intro h
    cases hcut : Text.splitOnce ['.'] path.toList with
    | none =>
      rw [locate_of_no_cut hcut] at h
      cases h
    | some cut =>
      obtain ⟨before, after⟩ := cut
      obtain ⟨hpath, hpoint⟩ := Text.splitOnce_singleton_eq_some_iff.1 hcut
      rw [locate_of_cut hcut] at h
      split at h
      · next hin =>
        obtain ⟨rfl, rfl⟩ := FieldPath.element.inj h
        refine ⟨hin.2, by simpa using hpoint, ?_, by simpa using hpath⟩
        simpa [String.ofList_eq_empty_iff] using hin.1
      · cases h
  · rintro ⟨harray, hpoint, hrest, hpath⟩
    rw [locate_of_cut (Text.splitOnce_singleton_eq_some_iff.2 ⟨hpath, hpoint⟩)]
    rw [if_pos ⟨by simpa using hrest, by simpa using harray⟩]
    simp

theorem eq_of_locate_eq_document {other : String} (h : m.locate path = .document other) :
    other = path := by
  cases hcut : Text.splitOnce ['.'] path.toList with
  | none =>
    rw [locate_of_no_cut hcut] at h
    exact (FieldPath.document.inj h).symm
  | some cut =>
    rw [locate_of_cut hcut] at h
    split at h
    · cases h
    · exact (FieldPath.document.inj h).symm

theorem isElement_locate_iff : (m.locate path).isElement = true ↔ Inside (topLevel m.arrays) path := by
  constructor
  · intro h
    cases hloc : m.locate path with
    | document other => rw [hloc] at h; cases h
    | element array rest =>
      obtain ⟨harray, hpoint, hrest, hpath⟩ := locate_eq_element_iff.1 hloc
      exact ⟨array, List.mem_filter.2 ⟨harray, by simpa using hpoint⟩, rest, hrest, hpath⟩
  · rintro ⟨array, harray, rest, hrest, hpath⟩
    obtain ⟨hmem, hpoint⟩ := List.mem_filter.1 harray
    rw [locate_eq_element_iff.2 ⟨hmem, by simpa using hpoint, hrest, hpath⟩]
    rfl

theorem exists_physical_eq (m : FieldMap) (array : String) :
    ∃ rest, rest ≠ "" ∧ m.physical (array ++ "." ++ rest) = array ++ "." ++ rest := by
  -- A field that is not mapped: the mappings are finitely many.
  obtain ⟨rest, hrest⟩ := Infinite.exists_notMem_finset
    ([] :: (Entries.keys m.mappings).map fun key => key.toList.drop (array.toList.length + 1)).toFinset
  rw [List.mem_toFinset, List.mem_cons, not_or] at hrest
  refine ⟨String.ofList rest, by simpa using hrest.1, ?_⟩
  have hfree : array ++ "." ++ String.ofList rest ∉ Entries.keys m.mappings := by
    intro hkey
    refine hrest.2 (List.mem_map.2 ⟨_, hkey, ?_⟩)
    rw [eq_append_point_iff.1 rfl, List.drop_append]
    simp
  rw [physical, Entries.get?_eq_none_of_notMem_keys hfree, Option.getD_none]

end FieldMap

/-! ## Fields of a configuration -/

/-- The field names that filters of a configuration can use. -/
def fieldsOf (config : Config) : FieldMap := ⟨config.fieldMappings, config.arrayPaths⟩

theorem Scope.fields_ofConfig (config : Config) (protectedKeys : List String) (now : Instant) :
    (Scope.ofConfig config protectedKeys now).fields = fieldsOf config := rfl

/-- A filter goes to the elements exactly when its path is inside an array that is a field of the
document itself. So the filters on all arrays go there exactly when each other array is in one of
these. -/
theorem routing_agrees_iff (config : Config) :
    (∀ logical, ((fieldsOf config).resolve logical).isElement = true ↔
        Inside (topLevel config.arrayPaths) ((fieldsOf config).physical logical)) ∧
      ((∀ logical, ((fieldsOf config).resolve logical).isElement = true ↔
          Inside config.arrayPaths ((fieldsOf config).physical logical)) ↔
        ∀ array ∈ config.arrayPaths, '.' ∈ array.toList → Below config.arrayPaths array) := by
  have hroute : ∀ logical, ((fieldsOf config).resolve logical).isElement = true ↔
      Inside (topLevel config.arrayPaths) ((fieldsOf config).physical logical) :=
    fun _ => FieldMap.isElement_locate_iff
  refine ⟨hroute, ?_⟩
  constructor
  · intro hagree array harray hpoint
    obtain ⟨rest, hrest, hphysical⟩ := (fieldsOf config).exists_physical_eq array
    have hinside : Inside config.arrayPaths (array ++ "." ++ rest) :=
      ⟨array, harray, rest, hrest, rfl⟩
    rw [← hphysical, ← hagree, hroute, hphysical] at hinside
    exact below_of_inside_topLevel hpoint hinside
  · intro hbelow logical
    rw [hroute]
    refine ⟨inside_of_inside_topLevel, ?_⟩
    rintro ⟨array, harray, rest, hrest, hpath⟩
    rw [hpath]
    refine inside_topLevel_append hrest ?_
    by_cases hpoint : '.' ∈ array.toList
    · exact .inr (hbelow array harray hpoint)
    · exact .inl (List.mem_filter.2 ⟨harray, by simpa using hpoint⟩)

def nestedItems : Config where
  baseFilter := [("documentType", .string "order")]
  unwind := some { path := "$data.items" }

/-- A filter on an unwound array below the top level is taken for one on the document. -/
theorem nested_array_not_routed :
    ¬(((fieldsOf nestedItems).resolve "data.items.sku").isElement = true ↔
      Inside nestedItems.arrayPaths ((fieldsOf nestedItems).physical "data.items.sku")) := by
  intro h
  have hinside : Inside nestedItems.arrayPaths ((fieldsOf nestedItems).physical "data.items.sku") :=
    ⟨"data.items", by decide, "sku", by decide, by decide⟩
  exact absurd (h.2 hinside) (by decide)

end ReportQuery.Filter
