import ReportQuery.Pipeline.Assembly

/-!
# Compiling queries

A configuration and filters become a pipeline. The base filter has to name a discriminator, which
says what kind of documents the report is about and which no filter can change.
-/

namespace ReportQuery.Pipeline

/-- The keys of the base filter that count as discriminators, unless others are given. -/
def defaultDiscriminators : List String := ["documentType", "entityId"]

/-- The base filter has a discriminator that is not blank. -/
def isScoped (discriminators : List String) (config : Config) : Bool :=
  discriminators.any fun key => (Entries.get? key config.baseFilter).any fun v => !Filter.isBlank v

/-- Checks that a configuration is scoped. -/
def validate (discriminators : List String) (config : Config) : Except ConfigError Unit :=
  if isScoped discriminators config then .ok ()
  else .error (.missingDiscriminator config.name discriminators)

def compile (discriminators : List String) (now : Instant) (config : Config) (filters : Document) :
    Except ConfigError (List Stage) := do
  validate discriminators config
  assemble now config ((Filter.Scope.ofConfig config discriminators now).fragments filters)

theorem compile_eq_ok_iff {discriminators : List String} {now : Instant} {config : Config}
    {filters : Document} {stages : List Stage} :
    compile discriminators now config filters = .ok stages ↔
      isScoped discriminators config = true ∧
        assemble now config ((Filter.Scope.ofConfig config discriminators now).fragments filters) =
          .ok stages := by
  unfold compile validate
  cases isScoped discriminators config with
  | true => simp [bind, Except.bind]
  | false => simp [bind, Except.bind]

end ReportQuery.Pipeline
