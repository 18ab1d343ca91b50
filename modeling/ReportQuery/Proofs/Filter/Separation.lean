import ReportQuery.Proofs.Filter.Contributions
import ReportQuery.Proofs.Filter.Routing

/-!
# Filters that do not meet

A filter on an array element changes the match on elements only, and a filter on the document the
base match only. Two filters on different paths leave each other alone, too, unless both are on
elements: these are named by what follows the array, so two arrays can share a name.

Main statements: `Scope.fragments_documentFilters`, `Scope.value?_fragments_erase`.
-/

namespace ReportQuery.Filter

theorem FieldMap.eq_or_shared_of_slot_eq {m : FieldMap} {path other : String}
    (h : (m.locate path).slot = (m.locate other).slot) :
    path = other ∨ ∃ array another rest, array ≠ another ∧
      m.locate path = .element array rest ∧ m.locate other = .element another rest := by
  cases hp : m.locate path with
  | document p =>
    cases ho : m.locate other with
    | element array o => rw [hp, ho] at h; cases h
    | document o =>
      rw [hp, ho] at h
      cases h
      left
      rw [← eq_of_locate_eq_document hp, ← eq_of_locate_eq_document ho]
  | element array p =>
    cases ho : m.locate other with
    | document o => rw [hp, ho] at h; cases h
    | element another o =>
      rw [hp, ho] at h
      cases h
      by_cases heq : array = another
      · left
        rw [(locate_eq_element_iff.1 hp).2.2.2, (locate_eq_element_iff.1 ho).2.2.2, heq]
      · right
        exact ⟨array, another, p, heq, rfl, rfl⟩

namespace Scope

variable (s : Scope)

/-- The filters that are not on array elements. -/
def documentFilters (filters : Document) : Document :=
  filters.filter fun filter => !(s.field filter.1).isElement

/-! ## One filter -/

theorem place_base_of_isElement {field : FieldPath} (h : field.isElement = true)
    (predicate : Predicate) (f : Fragments) : (s.place field predicate f).base = f.base := by
  cases field with
  | element array path => rfl
  | document path => cases h

theorem place_of_not_isElement {field : FieldPath} (h : field.isElement = false)
    (predicate : Predicate) (base elements others : Document) :
    s.place field predicate ⟨base, elements⟩ =
      ⟨(s.place field predicate ⟨base, others⟩).base, elements⟩ := by
  cases field with
  | element array path => cases h
  | document path =>
    simp only [place]
    split <;> rfl

theorem apply_of_isElement {filter : String × Json} (h : (s.field filter.1).isElement = true)
    (base elements : Document) :
    s.apply ⟨base, elements⟩ filter = ⟨base, (s.apply ⟨base, elements⟩ filter).elements⟩ := by
  have hbase : (s.apply ⟨base, elements⟩ filter).base = base := by
    rw [apply_eq]
    split
    · rfl
    · rw [s.place_base_of_isElement h]
  cases hf : s.apply ⟨base, elements⟩ filter
  rw [hf] at hbase
  cases hbase
  rfl

theorem apply_of_not_isElement {filter : String × Json}
    (h : (s.field filter.1).isElement = false) (base elements others : Document) :
    s.apply ⟨base, elements⟩ filter = ⟨(s.apply ⟨base, others⟩ filter).base, elements⟩ := by
  simp only [apply_eq]
  split
  · rfl
  · exact s.place_of_not_isElement h _ base elements others

/-! ## All filters -/

theorem foldl_apply_documentFilters (filters : Document) (base elements : Document) :
    (s.documentFilters filters).foldl s.apply ⟨base, []⟩ =
      ⟨(filters.foldl s.apply ⟨base, elements⟩).base, []⟩ := by
  unfold documentFilters
  induction filters generalizing base elements with
  | nil => rfl
  | cons filter rest ih =>
    rw [List.foldl_cons]
    cases h : (s.field filter.1).isElement with
    | true =>
      rw [List.filter_cons_of_neg (by simp [h]), s.apply_of_isElement h]
      exact ih base _
    | false =>
      rw [List.filter_cons_of_pos (by simp [h]), List.foldl_cons,
        s.apply_of_not_isElement h base [] elements, s.apply_of_not_isElement h base elements elements]
      exact ih _ elements

theorem fragments_documentFilters (filters : Document) :
    s.fragments (s.documentFilters filters) = ⟨(s.fragments filters).base, []⟩ :=
  s.foldl_apply_documentFilters filters s.start.base []

/-! ## Filters on different paths -/

theorem aimedAt_erase {slot : Slot} {other : String} (h : (s.field other).slot ≠ slot)
    (filters : Document) :
    s.aimedAt slot (Entries.erase other filters) = s.aimedAt slot filters := by
  unfold aimedAt Entries.erase
  rw [List.filter_filter]
  refine List.filter_congr fun filter _ => ?_
  by_cases hname : filter.1 = other
  · simp [hname, h]
  · simp [hname]

theorem contributions_erase {slot : Slot} {other : String} (h : (s.field other).slot ≠ slot)
    (filters : Document) :
    s.contributions slot (Entries.erase other filters) = s.contributions slot filters := by
  rw [contributions_eq_filterMap_aimedAt, contributions_eq_filterMap_aimedAt, s.aimedAt_erase h]

/-- Without a filter on another path, the slot of a filter keeps its value, unless both paths lead
to one name in two arrays. -/
theorem value?_fragments_erase {key other : String}
    (hpath : s.fields.physical (Key.ofText key).field ≠ s.fields.physical (Key.ofText other).field)
    (hshared : ∀ array another rest, array ≠ another → s.field key = .element array rest →
      s.field other ≠ .element another rest)
    (filters : Document) :
    (s.fragments (Entries.erase other filters)).value? (s.field key).slot =
      (s.fragments filters).value? (s.field key).slot := by
  have hslot : (s.field other).slot ≠ (s.field key).slot := by
    intro heq
    rcases FieldMap.eq_or_shared_of_slot_eq heq with h | ⟨another, array, rest, hne, ho, hk⟩
    · exact hpath h.symm
    · exact hshared array another rest (Ne.symm hne) hk ho
  rw [value?_fragments, value?_fragments, s.contributions_erase hslot]

end Scope

/-- Orders with a second array besides the line items. -/
def twoArrays : Config where
  baseFilter := [("documentType", .string "order")]
  arrayFields := ["parts"]

def twoArraysScope : Scope := Scope.ofConfig twoArrays ["documentType"] .epoch

def skuFilters : Document :=
  [("lineItems.sku", .string "A"), ("sku", .string "B"), ("parts.size__gte", .string "4"),
    ("lineItems.sku__ne", .string "C")]

theorem value?_fragments_erase_sku :
    twoArraysScope.fields.physical "lineItems.sku" ≠ twoArraysScope.fields.physical "sku" ∧
      (twoArraysScope.fragments (Entries.erase "sku" skuFilters)).value?
          (twoArraysScope.field "lineItems.sku").slot =
        (twoArraysScope.fragments skuFilters).value? (twoArraysScope.field "lineItems.sku").slot := by
  have hfield : twoArraysScope.field "sku" = .document "sku" := by decide +kernel
  refine ⟨by decide +kernel, ?_⟩
  refine twoArraysScope.value?_fragments_erase (by decide +kernel) ?_ skuFilters
  intro array another rest _ _
  rw [hfield]
  exact FieldPath.noConfusion

/-- Filters on one name in two arrays do meet: the later takes the place of the earlier. -/
theorem filters_of_two_arrays_meet :
    ¬(twoArraysScope.fields.physical (Key.ofText "lineItems.sku").field ≠
        twoArraysScope.fields.physical (Key.ofText "parts.sku").field →
      (twoArraysScope.fragments
          [("lineItems.sku", .string "A"), ("parts.sku", .string "B")]).value?
            (twoArraysScope.field "lineItems.sku").slot =
        (twoArraysScope.fragments (Entries.erase "parts.sku"
          [("lineItems.sku", .string "A"), ("parts.sku", .string "B")])).value?
            (twoArraysScope.field "lineItems.sku").slot) := by
  decide +kernel

end ReportQuery.Filter
