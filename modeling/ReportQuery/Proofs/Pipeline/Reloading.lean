import ReportQuery.Proofs.Pipeline.ElementMatch
import ReportQuery.Proofs.Pipeline.StageDocument

/-!
# Writing and loading pipelines

A pipeline is loaded from what was written of it exactly when each of its stages is well formed. The
stages of a template are, since they were read; those that a configuration declares are by the way they
are made. So every compiled pipeline can be kept and loaded again.

Main statement: `ofJson_toJson_of_compile`.
-/

namespace ReportQuery

open ReportQuery.Filter (Fragments)

/-! ## Loading -/

namespace Stage

theorem load_toJson {stage : Stage} (h : stage.WellFormed) : load stage.toJson = .ok stage :=
  load_eq_ok_iff.2 (ofJson_eq_ok_iff.2 ⟨rfl, h⟩)

theorem of_load {value : Json} {stage : Stage} (h : load value = .ok stage) :
    value = stage.toJson ∧ stage.WellFormed :=
  ofJson_eq_ok_iff.1 (load_eq_ok_iff.1 h)

end Stage

namespace Pipeline

/-- Each stage can be written and read. -/
def WellFormed (stages : List Stage) : Prop := ∀ stage ∈ stages, stage.WellFormed

theorem mapM_load_toJson {stages : List Stage} (h : WellFormed stages) :
    (stages.map Stage.toJson).mapM Stage.load = .ok stages := by
  induction stages with
  | nil => rfl
  | cons stage rest ih =>
    obtain ⟨hstage, hrest⟩ := List.forall_mem_cons.1 h
    rw [List.map_cons, List.mapM_cons, Stage.load_toJson hstage, ih hrest]
    rfl

theorem of_mapM_load {docs : List Json} {stages : List Stage} (h : docs.mapM Stage.load = .ok stages) :
    docs = stages.map Stage.toJson ∧ WellFormed stages := by
  induction docs generalizing stages with
  | nil =>
    cases h
    exact ⟨rfl, List.forall_mem_nil _⟩
  | cons doc rest ih =>
    rw [List.mapM_cons] at h
    obtain ⟨stage, hstage, h⟩ := Json.bind_eq_ok_iff.1 h
    obtain ⟨others, hothers, h⟩ := Json.bind_eq_ok_iff.1 h
    cases h
    obtain ⟨rfl, hwf⟩ := Stage.of_load hstage
    obtain ⟨rfl, hrest⟩ := ih hothers
    exact ⟨rfl, List.forall_mem_cons.2 ⟨hwf, hrest⟩⟩

/-- A value holds a pipeline exactly when it is the written form of that pipeline. -/
theorem ofJson_eq_ok_iff {value : Json} {stages : List Stage} :
    ofJson value = .ok stages ↔ value = toJson stages ∧ WellFormed stages := by
  constructor
  · intro h
    cases value with
    | array docs =>
      obtain ⟨rfl, hwf⟩ := of_mapM_load h
      exact ⟨rfl, hwf⟩
    | _ => cases h
  · rintro ⟨rfl, hwf⟩
    exact mapM_load_toJson hwf

/-- A pipeline that is not well formed may be taken for another one. -/
example : ofJson (toJson [.custom "$limit" .null]) = .ok [.limit .null] := by rfl

theorem WellFormed.append {before after : List Stage} (hbefore : WellFormed before)
    (hafter : WellFormed after) : WellFormed (before ++ after) :=
  List.forall_mem_append.2 ⟨hbefore, hafter⟩

/-! ## Stages of templates -/

theorem wellFormed_elementMatch (elements : Document) : WellFormed (elementMatch elements) := by
  unfold elementMatch
  split
  · exact List.forall_mem_nil _
  · exact List.forall_mem_singleton.2 trivial

theorem WellFormed.afterFirstUnwind {pending stages : List Stage} (hpending : WellFormed pending)
    (h : WellFormed stages) : WellFormed (afterFirstUnwind pending stages) := by
  induction stages with
  | nil => exact h
  | cons stage rest ih =>
    obtain ⟨hstage, hrest⟩ := List.forall_mem_cons.1 h
    unfold Pipeline.afterFirstUnwind
    split
    · exact List.forall_mem_cons.2 ⟨hstage, hpending.append hrest⟩
    · exact List.forall_mem_cons.2 ⟨hstage, ih hrest⟩

theorem wellFormed_of_forall₂ {docs : List Json} {stages : List Stage}
    (h : List.Forall₂ (fun doc stage => Stage.ofJson doc = .ok stage) docs stages) :
    WellFormed stages := by
  induction h with
  | nil => exact List.forall_mem_nil _
  | cons hdoc _ ih => exact List.forall_mem_cons.2 ⟨(Stage.ofJson_eq_ok_iff.1 hdoc).2, ih⟩

theorem wellFormed_of_ofTemplate {config : String} {pending : List Stage} {index : Nat}
    {docs : List Json} {stages : List Stage} (hpending : WellFormed pending)
    (h : ofTemplate config pending index docs = .ok stages) : WellFormed stages := by
  rw [ofTemplate_eq_map_afterFirstUnwind] at h
  obtain ⟨own, hown, rfl⟩ := Json.map_eq_ok_iff.1 h
  exact hpending.afterFirstUnwind (wellFormed_of_forall₂ (forall₂_of_ofTemplate hown))

/-! ## Stages that a configuration declares -/

theorem unwindPath?_body (u : Unwind) : unwindPath? u.body = some u.fieldRef := by
  unfold Unwind.body
  split <;> rfl

theorem wellFormed_stages (now : Instant) (index : Nat) (lookup : Lookup) :
    WellFormed (lookup.stages now index) := by
  have hstage : ∀ {stage}, lookup.stage now index = .ok stage → stage.WellFormed := by
    intro stage h
    cases lookup <;> cases h <;> trivial
  unfold Lookup.stages
  split
  · exact List.forall_mem_nil _
  next stage h =>
  split
  · exact List.forall_mem_cons.2 ⟨hstage h, List.forall_mem_singleton.2 rfl⟩
  · exact List.forall_mem_singleton.2 (hstage h)

theorem wellFormed_ofLookups (now : Instant) (index : Nat) (lookups : List Lookup) :
    WellFormed (ofLookups now index lookups) := by
  induction lookups generalizing index with
  | nil => exact List.forall_mem_nil _
  | cons lookup rest ih => exact (wellFormed_stages now index lookup).append (ih _)

theorem wellFormed_toList {α : Type} {make : α → Stage} (h : ∀ a, (make a).WellFormed)
    (part : Option α) : WellFormed (part.map make).toList := by
  cases part with
  | none => exact List.forall_mem_nil _
  | some a => exact List.forall_mem_singleton.2 (h a)

theorem wellFormed_unwind (u : Unwind) : (Stage.unwind u.body).WellFormed := by
  have hpath : (unwindPath? u.body).isSome = true := by
    rw [unwindPath?_body]
    rfl
  exact hpath

theorem wellFormed_declared (now : Instant) (config : Config) (f : Fragments) :
    WellFormed (declared now config f) := by
  unfold declared
  refine .append (.append (.append (.append (.append (.append ?_ ?_) ?_) ?_) ?_) ?_) ?_
  · refine List.forall_mem_cons.2 ⟨trivial, ?_⟩
    split
    · next u _ =>
      exact List.forall_mem_cons.2 ⟨wellFormed_unwind u, wellFormed_elementMatch f.elements⟩
    · exact List.forall_mem_nil _
  · exact wellFormed_ofLookups now 0 config.lookups
  all_goals
    apply wellFormed_toList
    intro _
    trivial

/-! ## Pipelines -/

theorem wellFormed_of_assemble {now : Instant} {config : Config} {f : Fragments} {stages : List Stage}
    (h : assemble now config f = .ok stages) : WellFormed stages := by
  cases hp : config.pipeline with
  | some template =>
    rw [assemble_of_template hp] at h
    obtain ⟨others, hothers, rfl⟩ := Json.map_eq_ok_iff.1 h
    exact List.forall_mem_cons.2
      ⟨trivial, wellFormed_of_ofTemplate (wellFormed_elementMatch f.elements) hothers⟩
  | none =>
    rw [assemble_of_declared hp] at h
    cases h
    exact wellFormed_declared now config f

/-- A compiled pipeline is loaded from its written form as it was, and so is each of its stages. -/
theorem ofJson_toJson_of_compile {discriminators : List String} {now : Instant} {config : Config}
    {filters : Document} {stages : List Stage}
    (h : compile discriminators now config filters = .ok stages) :
    (∀ stage ∈ stages, Stage.ofJson stage.toJson = .ok stage) ∧ ofJson (toJson stages) = .ok stages := by
  have hwf : WellFormed stages := wellFormed_of_assemble (compile_eq_ok_iff.1 h).2
  constructor
  · intro stage hstage
    exact Stage.ofJson_eq_ok_iff.2 ⟨rfl, hwf stage hstage⟩
  · exact ofJson_eq_ok_iff.2 ⟨rfl, hwf⟩

/-- Deliveries by item, with the suppliers of each item. -/
def deliveries : Config where
  baseFilter := [("documentType", .string "delivery")]
  unwind := some { path := "$items", preserveEmpty := some true }
  lookups := [
    .incomplete { collection := "carriers", output := "carrier" },
    .equality {
      collection := "suppliers"
      output := "supplier"
      localField := "supplierId"
      foreignField := "_id"
      unwind := true }]
  groupBy := some { id := .string "$supplier.name", fields := [("items", .named "count")] }
  limit := some (.string "9")

theorem ofJson_toJson_of_compile_deliveries :
    ∃ stages, compile defaultDiscriminators .epoch deliveries [("items.sku", .string "A")] =
        .ok stages ∧
      (∀ stage ∈ stages, Stage.ofJson stage.toJson = .ok stage) ∧
      ofJson (toJson stages) = .ok stages := by
  have hok : compile defaultDiscriminators .epoch deliveries [("items.sku", .string "A")] = .ok [
      .filter [("documentType", .string "delivery")],
      .unwind (.object [("path", .string "$items"), ("preserveNullAndEmptyArrays", .bool true)]),
      .filter [("sku", .string "A")],
      .lookup [("from", .string "suppliers"), ("localField", .string "supplierId"),
        ("foreignField", .string "_id"), ("as", .string "supplier")],
      .unwind (.string "$supplier"),
      .group [("_id", .string "$supplier.name"), ("items", .object [("$sum", .one)])],
      .limit (.string "9")] := by rfl
  exact ⟨_, hok, ofJson_toJson_of_compile hok⟩

end Pipeline

end ReportQuery
