import ReportQuery.Filter.Fragments

/-!
# What each filter contributes

A filter adds its predicate to one slot of the fragments, or to none. The value of a slot is the fold
of the predicates that go to it, in the order of their filters, over what is there at the start.

Main statements: `Scope.value?_fragments`, `Scope.value?_fragments_of_aimedAt_eq`.
-/

namespace ReportQuery.Filter

/-! ## Slots -/

/-- A path in one of the two matches. -/
inductive Slot where
  | base (path : String)
  | elements (path : String)
deriving DecidableEq

/-- Where predicates on a field go. The name of the array is not part of it. -/
def FieldPath.slot : FieldPath → Slot
  | .document path => .base path
  | .element _ path => .elements path

namespace Fragments

def value? (f : Fragments) : Slot → Option Json
  | .base path => Entries.get? path f.base
  | .elements path => Entries.get? path f.elements

def add (f : Fragments) (predicate : Predicate) : Slot → Fragments
  | .base path => { f with base := merge path predicate f.base }
  | .elements path => { f with elements := merge path predicate f.elements }

end Fragments

theorem get?_merge (path other : String) (predicate : Predicate) (fragment : Document) :
    Entries.get? other (merge path predicate fragment) =
      if path = other then some (mergedValue (Entries.get? other fragment) predicate)
      else Entries.get? other fragment := by
  unfold merge
  rw [Entries.get?_insert]
  by_cases h : path = other
  · rw [if_pos h, if_pos h.symm, h]
  · rw [if_neg h, if_neg (Ne.symm h)]

theorem Fragments.value?_add (f : Fragments) (predicate : Predicate) (slot other : Slot) :
    (f.add predicate slot).value? other =
      if slot = other then some (mergedValue (f.value? other) predicate) else f.value? other := by
  cases slot <;> cases other <;> simp [add, value?, get?_merge]

namespace Scope

variable (s : Scope)

def field (key : String) : FieldPath := s.fields.resolve (Key.ofText key).field

/-- Predicates on the field are left out. -/
def refuses : FieldPath → Bool
  | .document path => s.protects path
  | .element _ _ => false

/-- The predicate that a filter adds to a slot. -/
def contribution? (slot : Slot) (filter : String × Json) : Option Predicate :=
  if (s.field filter.1).slot = slot ∧ s.refuses (s.field filter.1) = false then
    predicate? s.now (Key.ofText filter.1) filter.2
  else none

def contributions (slot : Slot) (filters : Document) : List Predicate :=
  filters.filterMap (s.contribution? slot)

/-- The filters on fields that live at a slot. -/
def aimedAt (slot : Slot) (filters : Document) : Document :=
  filters.filter fun filter => (s.field filter.1).slot = slot

/-! ## One filter -/

theorem place_eq (field : FieldPath) (predicate : Predicate) (f : Fragments) :
    s.place field predicate f = if s.refuses field then f else f.add predicate field.slot := by
  cases field <;> rfl

theorem apply_eq (f : Fragments) (filter : String × Json) :
    s.apply f filter =
      match predicate? s.now (Key.ofText filter.1) filter.2 with
      | none => f
      | some predicate => s.place (s.field filter.1) predicate f := rfl

theorem value?_apply (f : Fragments) (filter : String × Json) (slot : Slot) :
    (s.apply f filter).value? slot =
      match s.contribution? slot filter with
      | some predicate => some (mergedValue (f.value? slot) predicate)
      | none => f.value? slot := by
  rw [apply_eq]
  unfold contribution?
  cases predicate? s.now (Key.ofText filter.1) filter.2 with
  | none => rw [ite_self]
  | some predicate =>
    simp only [place_eq]
    cases s.refuses (s.field filter.1) with
    | true => simp
    | false =>
      simp only [Bool.false_eq_true, if_false, Fragments.value?_add, and_true]
      by_cases h : (s.field filter.1).slot = slot
      · rw [if_pos h, if_pos h]
      · rw [if_neg h, if_neg h]

/-! ## All filters -/

theorem value?_foldl_apply (filters : Document) (f : Fragments) (slot : Slot) :
    (filters.foldl s.apply f).value? slot =
      (s.contributions slot filters).foldl (fun there p => some (mergedValue there p))
        (f.value? slot) := by
  induction filters generalizing f with
  | nil => rfl
  | cons filter rest ih =>
    rw [List.foldl_cons, ih, value?_apply]
    unfold contributions
    cases h : s.contribution? slot filter with
    | none => rw [List.filterMap_cons_none h]
    | some predicate => rw [List.filterMap_cons_some h, List.foldl_cons]

theorem value?_fragments (filters : Document) (slot : Slot) :
    (s.fragments filters).value? slot =
      (s.contributions slot filters).foldl (fun there p => some (mergedValue there p))
        (s.start.value? slot) :=
  s.value?_foldl_apply filters s.start slot

theorem contribution?_eq_none_of_slot_ne {slot : Slot} {filter : String × Json}
    (h : (s.field filter.1).slot ≠ slot) : s.contribution? slot filter = none := by
  unfold contribution?
  rw [if_neg]
  exact fun hs => h hs.1

theorem contributions_eq_filterMap_aimedAt (slot : Slot) (filters : Document) :
    s.contributions slot filters = (s.aimedAt slot filters).filterMap (s.contribution? slot) := by
  unfold contributions aimedAt
  rw [List.filterMap_filter]
  congr
  funext filter
  by_cases h : (s.field filter.1).slot = slot
  · rw [if_pos (decide_eq_true h)]
  · rw [s.contribution?_eq_none_of_slot_ne h, ite_self]

theorem contributions_eq_nil_of_protects {path : String} (h : s.protects path = true)
    (filters : Document) : s.contributions (.base path) filters = [] := by
  unfold contributions
  rw [List.filterMap_eq_nil_iff]
  intro filter _
  unfold contribution?
  rw [if_neg]
  rintro ⟨hslot, hrefuses⟩
  cases hf : s.field filter.1 with
  | element array other => rw [hf] at hslot; cases hslot
  | document other =>
    rw [hf] at hslot hrefuses
    cases hslot
    rw [refuses, h] at hrefuses
    cases hrefuses

end Scope

end ReportQuery.Filter
