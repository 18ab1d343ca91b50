import ReportQuery.Pipeline.Compile
import ReportQuery.Proofs.Filter.Separation
import ReportQuery.Proofs.Pipeline.StageForm
import ReportQuery.Proofs.Resolution

/-!
# The place of the element match

Filters on array elements add one stage to a pipeline, right after the first unwind stage that the
configuration itself has, and change no other stage. If it has none, they add nothing.

Main statement: `compile_documentFilters`.
-/

namespace ReportQuery

open ReportQuery.Filter (Fragments Scope)

/-! ## Unwind stages of a configuration -/

/-- A hand-written stage that takes an array apart. -/
def Json.isUnwindStage (doc : Json) : Bool := (doc.get? "$unwind").isSome

/-- Which of the stages after the base match is the first unwind stage. Unwinds of lookups do not
count. -/
def Config.unwindIndex? (c : Config) : Option Nat :=
  match c.pipeline with
  | some template => template.findIdx? Json.isUnwindStage
  | none => c.unwind.map fun _ => 0

theorem Json.isUnwindStage_resolveUnder (now : Instant) (key : Option String) (doc : Json) :
    (doc.resolveUnder now key).isUnwindStage = doc.isUnwindStage := by
  unfold isUnwindStage
  rw [get?_resolveUnder, Option.isSome_map]

theorem Stage.isUnwind_of_ofJson {doc : Json} {stage : Stage} (h : ofJson doc = .ok stage) :
    stage.isUnwind = doc.isUnwindStage := by
  obtain ⟨rfl, hwf⟩ := ofJson_eq_ok_iff.1 h
  rw [isUnwind_of_wellFormed hwf]
  by_cases hop : stage.operator = "$unwind" <;>
    simp [Json.isUnwindStage, toJson, Json.get?, Entries.get?, hop]

namespace Pipeline

/-! ## Templates -/

/-- The stages with `pending` after the first unwind. -/
def afterFirstUnwind (pending : List Stage) : List Stage → List Stage
  | [] => []
  | stage :: rest =>
    if stage.isUnwind then stage :: pending ++ rest else stage :: afterFirstUnwind pending rest

theorem ofTemplate_cons {doc : Json} {stage : Stage} (h : Stage.ofJson doc = .ok stage)
    (config : String) (pending : List Stage) (index : Nat) (rest : List Json) :
    ofTemplate config pending index (doc :: rest) =
      if stage.isUnwind then
        (ofTemplate config [] (index + 1) rest).map (stage :: pending ++ ·)
      else (ofTemplate config pending (index + 1) rest).map (stage :: ·) := by
  rw [ofTemplate, h]
  rfl

theorem afterFirstUnwind_nil (stages : List Stage) : afterFirstUnwind [] stages = stages := by
  induction stages with
  | nil => rfl
  | cons stage rest ih => simp [afterFirstUnwind, ih]

theorem ofTemplate_eq_map_afterFirstUnwind (config : String) (pending : List Stage) (index : Nat)
    (docs : List Json) :
    ofTemplate config pending index docs =
      (ofTemplate config [] index docs).map (afterFirstUnwind pending) := by
  induction docs generalizing index with
  | nil => rfl
  | cons doc rest ih =>
    cases hdoc : Stage.ofJson doc with
    | error reason => simp [ofTemplate, hdoc, Except.map]
    | ok stage =>
      rw [ofTemplate_cons hdoc, ofTemplate_cons hdoc]
      cases hunwind : stage.isUnwind with
      | true =>
        cases ofTemplate config [] (index + 1) rest <;> simp [Except.map, afterFirstUnwind, hunwind]
      | false =>
        rw [ih (index + 1)]
        cases ofTemplate config [] (index + 1) rest <;> simp [Except.map, afterFirstUnwind, hunwind]

theorem forall₂_of_ofTemplate {config : String} {index : Nat} {docs : List Json}
    {stages : List Stage} (h : ofTemplate config [] index docs = .ok stages) :
    List.Forall₂ (fun doc stage => Stage.ofJson doc = .ok stage) docs stages := by
  induction docs generalizing index stages with
  | nil =>
    cases h
    exact .nil
  | cons doc rest ih =>
    cases hdoc : Stage.ofJson doc with
    | error reason => simp [ofTemplate, hdoc] at h
    | ok stage =>
      rw [ofTemplate_cons hdoc] at h
      simp only [List.singleton_append, ite_self] at h
      cases ht : ofTemplate config [] (index + 1) rest with
      | error e => rw [ht] at h; cases h
      | ok tail =>
        rw [ht] at h
        cases h
        exact .cons hdoc (ih ht)

theorem map_eq_of_ofTemplate {α : Type} {f : Stage → α} {g : Json → α} {config : String}
    {index : Nat} {docs : List Json} {stages : List Stage}
    (hstage : ∀ {doc stage}, Stage.ofJson doc = .ok stage → f stage = g doc)
    (h : ofTemplate config [] index docs = .ok stages) : stages.map f = docs.map g := by
  have hall := forall₂_of_ofTemplate h
  clear h
  induction hall with
  | nil => rfl
  | cons hdoc _ ih => rw [List.map_cons, List.map_cons, ih, hstage hdoc]

/-- The first unwind of the stages stands where the template has its first. -/
theorem findIdx?_isUnwind_of_ofTemplate {config : String} {index : Nat} {now : Instant}
    {template : List Json} {stages : List Stage}
    (h : ofTemplate config [] index (Json.resolveItems now none template) = .ok stages) :
    stages.findIdx? Stage.isUnwind = template.findIdx? Json.isUnwindStage := by
  have hmap := map_eq_of_ofTemplate Stage.isUnwind_of_ofJson h
  rw [Json.resolveItems_eq_map, List.map_map] at hmap
  have hsame : Json.isUnwindStage ∘ Json.resolveUnder now none = Json.isUnwindStage := by
    funext doc
    exact doc.isUnwindStage_resolveUnder now none
  rw [hsame] at hmap
  calc stages.findIdx? Stage.isUnwind
      = (stages.map Stage.isUnwind).findIdx? id := by rw [List.findIdx?_map]; rfl
    _ = (template.map Json.isUnwindStage).findIdx? id := by rw [hmap]
    _ = template.findIdx? Json.isUnwindStage := by rw [List.findIdx?_map]; rfl

/-! ## Insertion -/

theorem afterFirstUnwind_of_findIdx?_eq_none {stages : List Stage}
    (h : stages.findIdx? Stage.isUnwind = none) (pending : List Stage) :
    afterFirstUnwind pending stages = stages := by
  induction stages with
  | nil => rfl
  | cons stage rest ih =>
    rw [List.findIdx?_cons] at h
    cases hunwind : stage.isUnwind with
    | true => simp [hunwind] at h
    | false =>
      simp only [hunwind, Bool.false_eq_true, if_false, Option.map_eq_none_iff] at h
      simp [afterFirstUnwind, hunwind, ih h]

theorem afterFirstUnwind_of_findIdx?_eq_some {stages : List Stage} {index : Nat}
    (h : stages.findIdx? Stage.isUnwind = some index) (inserted : Stage) :
    afterFirstUnwind [inserted] stages = stages.insertIdx (index + 1) inserted := by
  induction stages generalizing index with
  | nil => cases h
  | cons stage rest ih =>
    rw [List.findIdx?_cons] at h
    cases hunwind : stage.isUnwind with
    | true =>
      simp only [hunwind, if_true, Option.some.injEq] at h
      subst h
      simp [afterFirstUnwind, hunwind]
    | false =>
      simp only [hunwind, Bool.false_eq_true, if_false, Option.map_eq_some_iff] at h
      obtain ⟨before, hbefore, rfl⟩ := h
      simp [afterFirstUnwind, hunwind, ih hbefore]

theorem elementMatch_nil : elementMatch [] = [] := rfl

theorem elementMatch_of_ne_nil {elements : Document} (h : elements ≠ []) :
    elementMatch elements = [.filter elements] := by
  cases elements with
  | nil => exact absurd rfl h
  | cons element rest => rfl

/-- `stages` is `plain` with the match on `elements` right after the first unwind stage, which is the
one of the configuration, or it is `plain` itself if there is nothing to match or no such unwind. -/
structure InsertsElementMatch (config : Config) (elements : Document) (plain stages : List Stage) :
    Prop where
  same : elements = [] ∨ config.unwindIndex? = none → stages = plain
  first : ∀ index, config.unwindIndex? = some index →
    plain.findIdx? Stage.isUnwind = some (index + 1)
  declared : ∀ unwind, config.pipeline = none → config.unwind = some unwind →
    plain[1]? = some (.unwind unwind.body)
  inserted : ∀ index, elements ≠ [] → config.unwindIndex? = some index →
    stages = plain.insertIdx (index + 2) (.filter elements)

theorem InsertsElementMatch.of_unwindIndex?_eq_none {config : Config}
    (h : config.unwindIndex? = none) (elements : Document) (plain : List Stage) :
    InsertsElementMatch config elements plain plain := by
  have hdeclared : config.pipeline = none → config.unwind = none := by
    intro hp
    rw [Config.unwindIndex?, hp] at h
    exact Option.map_eq_none_iff.1 h
  refine ⟨fun _ => rfl, ?_, ?_, ?_⟩
  · intro index hsome
    rw [h] at hsome
    cases hsome
  · intro unwind hp hsome
    rw [hdeclared hp] at hsome
    cases hsome
  · intro index _ hsome
    rw [h] at hsome
    cases hsome

theorem insertsElementMatch_of_template {now : Instant} {config : Config} {template : List Json}
    {f : Fragments} {stages : List Stage} (hp : config.pipeline = some template)
    (h : assemble now config f = .ok stages) :
    ∃ plain, assemble now config ⟨f.base, []⟩ = .ok plain ∧
      InsertsElementMatch config f.elements plain stages := by
  rw [assemble_of_template hp, ofTemplate_eq_map_afterFirstUnwind] at h
  rw [assemble_of_template hp, elementMatch_nil]
  cases hplain : ofTemplate config.name [] 0 (Json.resolveItems now none template) with
  | error e => rw [hplain] at h; cases h
  | ok plain =>
    rw [hplain] at h
    cases h
    refine ⟨_, rfl, ?_⟩
    -- The stages of the template have their first unwind where the template has it.
    have hfirst : plain.findIdx? Stage.isUnwind = config.unwindIndex? := by
      rw [findIdx?_isUnwind_of_ofTemplate hplain, Config.unwindIndex?, hp]
    cases hindex : config.unwindIndex? with
    | none =>
      rw [hindex] at hfirst
      rw [afterFirstUnwind_of_findIdx?_eq_none hfirst]
      exact .of_unwindIndex?_eq_none hindex f.elements _
    | some index =>
      rw [hindex] at hfirst
      refine ⟨?_, ?_, ?_, ?_⟩
      · rintro (hnil | hnone)
        · rw [hnil, elementMatch_nil, afterFirstUnwind_nil]
        · rw [hindex] at hnone
          cases hnone
      · rintro _ hsome
        rw [← hindex, hsome] at hfirst
        rw [List.findIdx?_cons, hfirst]
        rfl
      · intro unwind hnone
        rw [hp] at hnone
        cases hnone
      · intro _ hne hsome
        rw [← hindex, hsome] at hfirst
        rw [elementMatch_of_ne_nil hne, afterFirstUnwind_of_findIdx?_eq_some hfirst]
        rfl

theorem insertsElementMatch_of_declared {now : Instant} {config : Config} {f : Fragments}
    (hp : config.pipeline = none) :
    InsertsElementMatch config f.elements (declared now config ⟨f.base, []⟩)
      (declared now config f) := by
  have hindex : config.unwindIndex? = config.unwind.map fun _ => 0 := by
    rw [Config.unwindIndex?, hp]
  cases hunwind : config.unwind with
  | none =>
    -- Only lookups unwind, if anything does.
    have hsame : declared now config ⟨f.base, []⟩ = declared now config f := by
      simp [declared, hunwind]
    rw [hsame]
    exact .of_unwindIndex?_eq_none (by rw [hindex, hunwind]; rfl) f.elements _
  | some unwind =>
    have hzero : config.unwindIndex? = some 0 := by rw [hindex, hunwind]; rfl
    refine ⟨?_, ?_, ?_, ?_⟩
    · rintro (hnil | hnone)
      · rw [← hnil]
      · rw [hzero] at hnone
        cases hnone
    · intro index hsome
      rw [hzero] at hsome
      cases hsome
      simp [declared, hunwind, List.findIdx?_cons, Stage.isUnwind]
    · intro other _ hother
      rw [hunwind] at hother
      cases hother
      simp [declared, hunwind]
    · intro index hne hsome
      rw [hzero] at hsome
      cases hsome
      simp [declared, hunwind, elementMatch_of_ne_nil hne, elementMatch_nil]

/-! ## Pipelines -/

/-- Element filters add at most one stage, in one place. -/
theorem compile_documentFilters {discriminators : List String} {now : Instant} {config : Config}
    {filters : Document} {stages : List Stage}
    (h : compile discriminators now config filters = .ok stages) :
    ∃ plain,
      compile discriminators now config
        ((Scope.ofConfig config discriminators now).documentFilters filters) = .ok plain ∧
      InsertsElementMatch config
        ((Scope.ofConfig config discriminators now).fragments filters).elements plain stages := by
  obtain ⟨hscoped, hstages⟩ := compile_eq_ok_iff.1 h
  simp only [compile_eq_ok_iff, hscoped, true_and, Scope.fragments_documentFilters]
  cases hp : config.pipeline with
  | some template => exact insertsElementMatch_of_template hp hstages
  | none =>
    rw [assemble_of_declared hp] at hstages
    cases hstages
    exact ⟨_, assemble_of_declared hp now _, insertsElementMatch_of_declared hp⟩

/-- Coats of paint, in an array within an array. -/
def coats : Config where
  baseFilter := [("documentType", .string "order")]
  pipeline := some [.object [("$addFields", .object [("seen", .bool true)])],
    .object [("$unwind", .string "$lineItems")],
    .object [("$unwind", .object [("path", .string "$lineItems.coats")])],
    .object [("$limit", .string "9")]]

/-- Element filters between document filters. -/
def coatFilters : Document :=
  [("lineItems.sku", .string "A"), ("status", .string "open"), ("lineItems.size__gte", .string "4"),
    ("lineItems", .array [])]

theorem compile_documentFilters_of_coats :
    ∃ stages plain, compile defaultDiscriminators .epoch coats coatFilters = .ok stages ∧
      compile defaultDiscriminators .epoch coats
        ((Scope.ofConfig coats defaultDiscriminators .epoch).documentFilters coatFilters) = .ok plain ∧
      InsertsElementMatch coats
        ((Scope.ofConfig coats defaultDiscriminators .epoch).fragments coatFilters).elements
        plain stages := by
  have hok : compile defaultDiscriminators .epoch coats coatFilters = .ok [
      .filter [("documentType", .string "order"), ("status", .string "open"),
        ("lineItems", .object [("$in", .array [])])],
      .custom "$addFields" (.object [("seen", .bool true)]),
      .unwind (.string "$lineItems"),
      .filter [("sku", .string "A"), ("size", .object [("$gte", .string "4")])],
      .unwind (.object [("path", .string "$lineItems.coats")]),
      .limit (.string "9")] := by rfl
  obtain ⟨plain, hplain, hinserted⟩ := compile_documentFilters hok
  exact ⟨_, plain, hok, hplain, hinserted⟩

end Pipeline

end ReportQuery
