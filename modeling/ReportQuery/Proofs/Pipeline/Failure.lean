import ReportQuery.Proofs.Pipeline.Scoping
import ReportQuery.Proofs.Pipeline.Template

/-!
# When compiling fails

Only a configuration can be at fault: it has no discriminator, or, if it has one, its template has a
document that is no stage. Filters and dates make no difference to that.

Main statement: `compile_fails_iff_faulty`.
-/

namespace ReportQuery.Pipeline

open ReportQuery.Filter (Scope)

/-- A discriminator is in the base filter and says something. -/
def HasDiscriminator (discriminators : List String) (config : Config) : Prop :=
  ∃ key ∈ discriminators, ∃ value, Entries.get? key config.baseFilter = some value ∧
    Filter.isBlank value = false

/-- What is wrong with a configuration. A missing discriminator goes before a broken template. -/
inductive Faulty (discriminators : List String) (config : Config) : ConfigError → Prop
  | unscoped (h : ¬HasDiscriminator discriminators config) :
    Faulty discriminators config (.missingDiscriminator config.name discriminators)
  | rejected {template : List Json} {index : Nat} {reason : StageError}
      (hscoped : HasDiscriminator discriminators config) (hp : config.pipeline = some template)
      (h : FirstRejected template index reason) :
    Faulty discriminators config (.invalidStage config.name index reason)

variable {discriminators : List String} {config : Config} {now : Instant} {filters : Document}

theorem compile_of_unscoped (h : ¬HasDiscriminator discriminators config) :
    compile discriminators now config filters =
      .error (.missingDiscriminator config.name discriminators) := by
  have hscoped : isScoped discriminators config ≠ true := fun hs => h (isScoped_iff.1 hs)
  unfold compile validate
  rw [if_neg hscoped]
  rfl

theorem compile_of_scoped (h : HasDiscriminator discriminators config) :
    compile discriminators now config filters =
      assemble now config ((Scope.ofConfig config discriminators now).fragments filters) := by
  unfold compile validate
  rw [if_pos (isScoped_iff.2 h)]
  rfl

theorem compile_eq_error_iff {error : ConfigError} :
    compile discriminators now config filters = .error error ↔ Faulty discriminators config error := by
  -- The discriminator is checked first. After that only a template can fail.
  by_cases hscoped : HasDiscriminator discriminators config
  · rw [compile_of_scoped hscoped]
    cases hp : config.pipeline with
    | none =>
      rw [assemble_of_declared hp]
      refine iff_of_false (by simp) fun hfaulty => ?_
      cases hfaulty with
      | unscoped hnot => exact hnot hscoped
      | rejected _ hsome _ => rw [hp] at hsome; cases hsome
    | some template =>
      rw [assemble_eq_error_iff hp]
      constructor
      · rintro ⟨index, reason, h, rfl⟩
        exact .rejected hscoped hp h
      · intro hfaulty
        cases hfaulty with
        | unscoped hnot => exact absurd hscoped hnot
        | rejected _ hsome h =>
          rw [hp] at hsome
          cases hsome
          exact ⟨_, _, h, rfl⟩
  · rw [compile_of_unscoped hscoped]
    constructor
    · rintro ⟨⟩
      exact .unscoped hscoped
    · intro hfaulty
      cases hfaulty with
      | unscoped _ => rfl
      | rejected hsome _ _ => exact absurd hsome hscoped

theorem exists_faulty_iff :
    (∃ error, Faulty discriminators config error) ↔
      ¬(HasDiscriminator discriminators config ∧
        ∀ template, config.pipeline = some template → ∀ doc ∈ template, IsStage doc) := by
  constructor
  · rintro ⟨_, hfaulty⟩ ⟨hscoped, haccepted⟩
    cases hfaulty with
    | unscoped hnot => exact hnot hscoped
    | rejected _ hp h => exact exists_firstRejected_iff.1 ⟨_, _, h⟩ (haccepted _ hp)
  · intro hnot
    by_cases hscoped : HasDiscriminator discriminators config
    · obtain ⟨template, himp⟩ := not_forall.1 fun haccepted => hnot ⟨hscoped, haccepted⟩
      obtain ⟨hp, hrejected⟩ := Classical.not_imp.1 himp
      obtain ⟨index, reason, h⟩ := exists_firstRejected_iff.2 hrejected
      exact ⟨_, .rejected hscoped hp h⟩
    · exact ⟨_, .unscoped hscoped⟩

/-- Whether compiling fails, and how, depends on the discriminators and the configuration alone. -/
theorem compile_fails_iff_faulty (discriminators : List String) (config : Config) :
    (∀ now filters error, compile discriminators now config filters = .error error ↔
        Faulty discriminators config error) ∧
      (∀ now later filters others error,
        compile discriminators now config filters = .error error ↔
          compile discriminators later config others = .error error) ∧
      ∀ now filters, (∃ stages, compile discriminators now config filters = .ok stages) ↔
        HasDiscriminator discriminators config ∧
          ∀ template, config.pipeline = some template → ∀ doc ∈ template, IsStage doc := by
  refine ⟨fun _ _ _ => compile_eq_error_iff, ?_, ?_⟩
  · intro now later filters others error
    rw [compile_eq_error_iff, compile_eq_error_iff]
  · intro now filters
    rw [← not_iff_not, not_exists_eq_ok_iff, ← exists_faulty_iff]
    simp only [compile_eq_error_iff]

end ReportQuery.Pipeline
