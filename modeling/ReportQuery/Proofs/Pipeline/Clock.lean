import Mathlib.Data.List.Basic
import ReportQuery.Pipeline.Compile
import ReportQuery.Proofs.Filter.Contributions
import ReportQuery.Proofs.Filter.Keys
import ReportQuery.Proofs.Resolution

/-!
# Queries without relative dates

The clock is read for placeholders and for named ranges, and for nothing else. If none is written, in
the configuration or in the filters, the compiled pipeline is the same at every instant.

Main statement: `compile_eq_of_clockFree`.
-/

namespace ReportQuery

open ReportQuery.Filter (Fragments Scope)

/-! ## Values without placeholders -/

namespace Json

mutual

/-- The strings in a value, keys of objects apart. -/
def texts : Json → List String
  | string text => [text]
  | array items => textsOfItems items
  | object fields => textsOfFields fields
  | _ => []

def textsOfItems : List Json → List String
  | [] => []
  | item :: rest => item.texts ++ textsOfItems rest

def textsOfFields : List (String × Json) → List String
  | [] => []
  | (_, value) :: rest => value.texts ++ textsOfFields rest

end

end Json

/-- None of the texts is a placeholder. -/
def Timeless (texts : List String) : Prop := ∀ text ∈ texts, Placeholder.offset? text = none

instance (texts : List String) : Decidable (Timeless texts) :=
  inferInstanceAs (Decidable (∀ text ∈ texts, Placeholder.offset? text = none))

theorem timeless_append {texts more : List String} :
    Timeless (texts ++ more) ↔ Timeless texts ∧ Timeless more :=
  List.forall_mem_append

namespace Json

mutual

theorem resolveUnder_of_timeless (now : Instant) (key : Option String) :
    ∀ value : Json, Timeless value.texts → resolveUnder now key value = value
  | null, _ | bool _, _ | number _, _ => rfl
  | string token, h => by
    rw [resolveUnder, Placeholder.resolveText_of_offset?_eq_none (h token List.mem_cons_self)]
  | array items, h => by rw [resolveUnder, resolveItems_of_timeless now key items h]
  | object fields, h => by rw [resolveUnder, resolveFields_of_timeless now fields h]

theorem resolveItems_of_timeless (now : Instant) (key : Option String) :
    ∀ items : List Json, Timeless (textsOfItems items) → resolveItems now key items = items
  | [], _ => rfl
  | item :: rest, h => by
    obtain ⟨hitem, hrest⟩ := timeless_append.1 h
    rw [resolveItems, resolveUnder_of_timeless now key item hitem,
      resolveItems_of_timeless now key rest hrest]

theorem resolveFields_of_timeless (now : Instant) :
    ∀ fields : List (String × Json), Timeless (textsOfFields fields) →
      resolveFields now fields = fields
  | [], _ => rfl
  | (key, value) :: rest, h => by
    obtain ⟨hvalue, hrest⟩ := timeless_append.1 h
    rw [resolveFields, resolveUnder_of_timeless now (some key) value hvalue,
      resolveFields_of_timeless now rest hrest]

end

end Json

/-! ## Filters -/

namespace Filter

section Clock

variable (now later : Instant)

theorem coerce?_of_timeless {value : Json}
    (h : ∀ text, value = .string text → Placeholder.offset? text = none) (operator : Operator) :
    coerce? operator now value = coerce? operator later value := by
  have hvalue : ∀ t, resolveValue operator.bound t value = value := by
    intro t
    cases value with
    | string token =>
      rw [resolveValue, Placeholder.resolveText_of_offset?_eq_none (h token rfl)]
    | _ => rfl
  rw [coerce?, coerce?, hvalue, hvalue]

theorem rangeBound_of_timeless {range : Document} {key : String}
    (h : ∀ text, Entries.get? key range = some (.string text) → Placeholder.offset? text = none)
    (operator : String) (bound : DayBound) :
    rangeBound now range key operator bound = rangeBound later range key operator bound := by
  unfold rangeBound
  cases hvalue : Entries.get? key range with
  | none => rfl
  | some value =>
    cases value with
    | string raw =>
      have hraw : ∀ t, Placeholder.resolve? bound t raw = none :=
        Placeholder.resolve?_of_offset?_eq_none (h raw hvalue) bound
      simp only [resolveRangeBound, hraw]
    | _ => rfl

/-- Neither a named range nor one with a relative bound. -/
def FixedRange (value : Json) : Prop :=
  (∀ name, value = .string name → DatePreset.ofName? name = none) ∧
    ∀ range, value = .object range → ∀ key ∈ ["start", "end"], ∀ text,
      Entries.get? key range = some (.string text) → Placeholder.offset? text = none

theorem dateRange?_of_fixedRange {value : Json} (h : FixedRange value) :
    dateRange? now value = dateRange? later value := by
  cases value with
  | string name => simp only [dateRange?, h.1 name rfl, Option.map_none]
  | object range =>
    have hbound := h.2 range rfl
    rw [dateRange?, dateRange?,
      rangeBound_of_timeless now later (hbound "start" List.mem_cons_self),
      rangeBound_of_timeless now later (hbound "end" (List.mem_cons_of_mem _ List.mem_cons_self))]
  | _ => rfl

theorem predicate?_of_timeless {key : String} {value : Json}
    (htext : ∀ text, value = .string text → Placeholder.offset? text = none)
    (hrange : key = dateRangeField → FixedRange value) :
    predicate? now (Key.ofText key) value = predicate? later (Key.ofText key) value := by
  unfold predicate?
  rw [coerce?_of_timeless now later htext]
  split
  · next hkey =>
    rw [Key.field_ofText_of_eq hkey.2] at hkey
    rw [dateRange?_of_fixedRange now later (hrange hkey.1)]
  · rfl

end Clock

theorem Scope.apply_of_predicate?_eq {s : Scope} {later : Instant} {filter : String × Json}
    (h : predicate? s.now (Key.ofText filter.1) filter.2 =
      predicate? later (Key.ofText filter.1) filter.2) (f : Fragments) :
    { s with now := later }.apply f filter = s.apply f filter := by
  rw [apply_eq, apply_eq, h]
  rfl

end Filter

/-! ## Configurations -/

/-- Nothing that is written in the configuration or the filters is relative to the clock. -/
structure ClockFree (config : Config) (filters : Document) : Prop where
  baseFilter : Timeless (Json.textsOfFields config.baseFilter)
  template : ∀ template, config.pipeline = some template → Timeless (Json.textsOfItems template)
  postLookupFilter : ∀ filter, config.postLookupFilter = some filter →
    Timeless (Json.textsOfFields filter)
  joins : ∀ join, .correlated join ∈ config.lookups → Timeless (Json.textsOfItems join.pipeline)
  values : ∀ filter ∈ filters, ∀ text, filter.2 = .string text → Placeholder.offset? text = none
  range : ∀ filter ∈ filters, filter.1 = Filter.dateRangeField → Filter.FixedRange filter.2

namespace ClockFree

variable {config : Config} {filters : Document}

theorem fragments_eq (h : ClockFree config filters) (protectedKeys : List String)
    (now later : Instant) :
    (Scope.ofConfig config protectedKeys now).fragments filters =
      (Scope.ofConfig config protectedKeys later).fragments filters := by
  have hstart : (Scope.ofConfig config protectedKeys now).start =
      (Scope.ofConfig config protectedKeys later).start := by
    simp only [Scope.start, Scope.ofConfig, Json.resolveFields_of_timeless _ _ h.baseFilter]
  unfold Scope.fragments
  rw [hstart]
  refine List.foldl_ext _ _ _ fun f filter hfilter => ?_
  exact Scope.apply_of_predicate?_eq (s := Scope.ofConfig config protectedKeys later)
    (Filter.predicate?_of_timeless later now (h.values filter hfilter) (h.range filter hfilter)) f

end ClockFree

namespace Pipeline

theorem stages_of_timeless {lookup : Lookup}
    (h : ∀ join, lookup = .correlated join → Timeless (Json.textsOfItems join.pipeline))
    (now later : Instant) (index : Nat) : lookup.stages now index = lookup.stages later index := by
  cases lookup with
  | correlated join =>
    simp only [Lookup.stages, Lookup.stage, Json.resolveItems_of_timeless _ _ _ (h join rfl)]
  | _ => rfl

theorem ofLookups_of_timeless {lookups : List Lookup}
    (h : ∀ join, .correlated join ∈ lookups → Timeless (Json.textsOfItems join.pipeline))
    (now later : Instant) (index : Nat) :
    ofLookups now index lookups = ofLookups later index lookups := by
  induction lookups generalizing index with
  | nil => rfl
  | cons lookup rest ih =>
    have hlookup : lookup.stages now index = lookup.stages later index :=
      stages_of_timeless (fun join hjoin => h join (hjoin ▸ List.mem_cons_self)) now later index
    rw [ofLookups, ofLookups, hlookup, ih fun join hjoin => h join (List.mem_cons_of_mem _ hjoin)]

theorem assemble_of_clockFree {config : Config} {filters : Document} (h : ClockFree config filters)
    (now later : Instant) (f : Fragments) : assemble now config f = assemble later config f := by
  cases hp : config.pipeline with
  | some template =>
    simp only [assemble_of_template hp, Json.resolveItems_of_timeless _ _ _ (h.template _ hp)]
  | none =>
    have hfilter : ∀ t, (config.postLookupFilter.map fun filter =>
        Stage.filter (Json.resolveFields t filter)) = config.postLookupFilter.map .filter := by
      intro t
      cases hpost : config.postLookupFilter with
      | none => rfl
      | some filter =>
        rw [Option.map_some, Json.resolveFields_of_timeless t _ (h.postLookupFilter _ hpost)]
        rfl
    rw [assemble_of_declared hp, assemble_of_declared hp, declared, declared,
      ofLookups_of_timeless h.joins now later, hfilter, hfilter]

/-- Without relative dates, the compiled pipeline does not depend on the clock. -/
theorem compile_eq_of_clockFree {config : Config} {filters : Document}
    (h : ClockFree config filters) (discriminators : List String) (now later : Instant) :
    compile discriminators now config filters = compile discriminators later config filters := by
  unfold compile
  rw [h.fragments_eq discriminators now later, assemble_of_clockFree h now later]

/-- Orders of one year with their parts. -/
def yearOrders : Config where
  baseFilter := [("documentType", .string "order"), ("createdAt", .object [("$gte", .string "2024")])]
  lookups := [.incomplete {}, .correlated {
    collection := "parts"
    output := "parts"
    pipeline := [.object [("$match", .object [("state", .string "nowhere")])]] }]
  postLookupFilter := some [("parts.state", .object [("$ne", .string "now-1")])]

/-- Texts that are close to relative dates. Those in an array are not resolved. -/
def fixedFilters : Document :=
  [("date_range", .object [("start", .string "2024-01-01"), ("end", .string "today")]),
    ("seenAt__gte", .string "now+1"), ("state", .array [.string "now"])]

theorem compile_eq_of_clockFree_of_yearOrders :
    ClockFree yearOrders fixedFilters ∧
      compile defaultDiscriminators .epoch yearOrders fixedFilters =
        compile defaultDiscriminators (.endOf Instant.epoch.date) yearOrders fixedFilters := by
  have hfree : ClockFree yearOrders fixedFilters := by
    refine ⟨by decide +kernel, ?_, ?_, ?_, ?_, ?_⟩
    · intro template hp
      cases hp
    · intro filter hfilter
      cases hfilter
      decide +kernel
    · intro join hjoin
      simp only [yearOrders, List.mem_cons, List.not_mem_nil, or_false] at hjoin
      rcases hjoin with hjoin | hjoin <;> cases hjoin
      decide +kernel
    · intro filter hfilter text htext
      simp only [fixedFilters, List.mem_cons, List.not_mem_nil, or_false] at hfilter
      rcases hfilter with rfl | rfl | rfl <;> cases htext
      decide +kernel
    · intro filter hfilter hkey
      simp only [fixedFilters, List.mem_cons, List.not_mem_nil, or_false] at hfilter
      rcases hfilter with rfl | rfl | rfl
      · refine ⟨fun _ => by rintro ⟨⟩, ?_⟩
        rintro _ ⟨⟩ key hkey text htext
        simp only [List.mem_cons, List.not_mem_nil, or_false] at hkey
        rcases hkey with rfl | rfl <;> cases htext <;> decide +kernel
      · exact absurd hkey (by decide)
      · exact absurd hkey (by decide)
  exact ⟨hfree, compile_eq_of_clockFree hfree defaultDiscriminators _ _⟩

end Pipeline

end ReportQuery
