import ReportQuery.Pipeline.Compile
import ReportQuery.Proofs.Filter.Contributions
import ReportQuery.Proofs.Resolution

/-!
# Pipelines stay in their scope

The discriminators in the base filter of a configuration say which documents a report is about. They
lead every pipeline of the configuration, with the values that the configuration gives them, and no
filter can change that.

Main statement: `compile_keeps_scope`.
-/

namespace ReportQuery

open ReportQuery.Filter (Fragments Scope)

/-! ## The base match -/

theorem Filter.Scope.get?_base_of_protects (s : Scope) {key : String} (h : s.protects key = true)
    (filters : Document) :
    Entries.get? key (s.fragments filters).base =
      Entries.get? key (Json.resolveFields s.now s.baseFilter) := by
  have hvalue := s.value?_fragments filters (.base key)
  rw [s.contributions_eq_nil_of_protects h, List.foldl_nil] at hvalue
  exact hvalue

namespace Pipeline

theorem assemble_eq_filter_cons {now : Instant} {config : Config} {f : Fragments}
    {stages : List Stage} (h : assemble now config f = .ok stages) :
    ∃ rest, stages = .filter f.base :: rest := by
  cases hp : config.pipeline with
  | none =>
    rw [assemble_of_declared hp] at h
    cases h
    exact ⟨_, rfl⟩
  | some template =>
    rw [assemble_of_template hp] at h
    cases ht : ofTemplate config.name (elementMatch f.elements) 0
        (Json.resolveItems now none template) with
    | error e => rw [ht] at h; cases h
    | ok rest =>
      rw [ht] at h
      cases h
      exact ⟨rest, rfl⟩

theorem isScoped_iff {discriminators : List String} {config : Config} :
    isScoped discriminators config = true ↔
      ∃ key ∈ discriminators, ∃ value, Entries.get? key config.baseFilter = some value ∧
        Filter.isBlank value = false := by
  simp [isScoped, Option.any_eq_true]

/-! ## Pipelines -/

/-- The first stage is a match that has a discriminator, and each discriminator of the base filter
is in it as the configuration gives it. -/
theorem compile_keeps_scope {discriminators : List String} {now : Instant} {config : Config}
    {filters : Document} {stages : List Stage}
    (h : compile discriminators now config filters = .ok stages) :
    ∃ base rest, stages = .filter base :: rest ∧
      (∃ key ∈ discriminators, ∃ value, Entries.get? key base = some value ∧
        Filter.isBlank value = false) ∧
      ∀ key ∈ discriminators, Entries.has key config.baseFilter = true →
        Entries.get? key base = Entries.get? key (Json.resolveFields now config.baseFilter) := by
  obtain ⟨hscoped, hstages⟩ := compile_eq_ok_iff.1 h
  obtain ⟨rest, rfl⟩ := assemble_eq_filter_cons hstages
  have hkept : ∀ key ∈ discriminators, Entries.has key config.baseFilter = true →
      Entries.get? key ((Scope.ofConfig config discriminators now).fragments filters).base =
        Entries.get? key (Json.resolveFields now config.baseFilter) := by
    intro key hkey hhas
    refine (Scope.ofConfig config discriminators now).get?_base_of_protects ?_ filters
    simp [Scope.protects, Scope.ofConfig, hkey, hhas]
  refine ⟨_, rest, rfl, ?_, hkept⟩
  obtain ⟨key, hkey, value, hvalue, hblank⟩ := isScoped_iff.1 hscoped
  refine ⟨key, hkey, value.resolveUnder now (some key), ?_, ?_⟩
  · rw [hkept key hkey (by simp [Entries.has, hvalue]), Json.get?_resolveFields, hvalue]
    rfl
  · rw [Json.isBlank_resolveUnder, hblank]

/-- Work orders of one site, with logical names for both discriminators. -/
def siteOrders : Config where
  baseFilter := [("documentType", .string "order"), ("entityId", .array [.string "E-1"])]
  fieldMappings := [("kind", "documentType"), ("date_range", "entityId")]
  pipeline := some [.object [("$unwind", .string "$lineItems")]]

/-- Filters that reach for the discriminators by a mapping, by name with an operator, as a range of
dates, and by the path of an element. -/
def rescoping : Document :=
  [("kind", .string "invoice"), ("documentType__ne", .string "order"),
    ("date_range", .object [("start", .string "2020")]), ("lineItems.documentType", .string "memo")]

theorem compile_keeps_scope_of_rescoping :
    ∃ stages, compile defaultDiscriminators .epoch siteOrders rescoping = .ok stages ∧
      ∃ base rest, stages = .filter base :: rest ∧
        (∃ key ∈ defaultDiscriminators, ∃ value, Entries.get? key base = some value ∧
          Filter.isBlank value = false) ∧
        ∀ key ∈ defaultDiscriminators, Entries.has key siteOrders.baseFilter = true →
          Entries.get? key base = Entries.get? key (Json.resolveFields .epoch siteOrders.baseFilter) := by
  have hok : compile defaultDiscriminators .epoch siteOrders rescoping = .ok [
      .filter [("documentType", .string "order"), ("entityId", .array [.string "E-1"])],
      .unwind (.string "$lineItems"), .filter [("documentType", .string "memo")]] := by rfl
  exact ⟨_, hok, compile_keeps_scope hok⟩

end Pipeline

end ReportQuery
