import ReportQuery.Stage

/-!
# Stages and their written form

Which stages a value in the store's own form can hold, and which value holds a given stage.

Main statement: `Stage.ofJson_eq_ok_iff`.
-/

namespace ReportQuery.Stage

/-- The operators that have a kind of stage of their own. -/
def knownOperators : List String :=
  ["$match", "$unwind", "$lookup", "$group", "$project", "$sort", "$limit"]

/-- Stages that can be written and read: an unwind has a path, and a stage of any other kind has an
operator that is one and has no kind of its own. -/
def WellFormed : Stage → Prop
  | unwind body => (unwindPath? body).isSome = true
  | custom operator _ => isOperatorKey operator = true ∧ operator ∉ knownOperators
  | _ => True

theorem ofObjectBody_eq_ok_iff {operator : String} {make : Document → Stage} {body : Json}
    {stage : Stage} :
    ofObjectBody operator make body = .ok stage ↔ ∃ doc, body = .object doc ∧ stage = make doc := by
  cases body <;> simp [ofObjectBody, eq_comm]

theorem isOperatorKey_of_mem_knownOperators {operator : String} (h : operator ∈ knownOperators) :
    isOperatorKey operator = true := by
  simp only [knownOperators, List.mem_cons, List.not_mem_nil, or_false] at h
  rcases h with rfl | rfl | rfl | rfl | rfl | rfl | rfl <;> decide

theorem isOperatorKey_operator {stage : Stage} (h : stage.WellFormed) :
    isOperatorKey stage.operator = true := by
  cases stage with
  | custom op body => exact h.1
  | _ => exact isOperatorKey_of_mem_knownOperators (by simp [operator, knownOperators])

theorem ofParts_operator_body {stage : Stage} (h : stage.WellFormed) :
    ofParts stage.operator stage.body = .ok stage := by
  unfold ofParts
  rw [isOperatorKey_operator h]
  cases stage with
  | custom op body =>
    have hop := h.2
    simp only [knownOperators, List.mem_cons, List.not_mem_nil, or_false, not_or] at hop
    simp [operator, Stage.body, hop]
  | unwind body =>
    have hpath : (unwindPath? body).isSome = true := h
    simp [operator, Stage.body, hpath]
  | _ => rfl

theorem of_ofParts {op : String} {body : Json} {stage : Stage} (h : ofParts op body = .ok stage) :
    stage.operator = op ∧ stage.body = body ∧ stage.WellFormed := by
  unfold ofParts at h
  split at h
  · cases h
  next hkey =>
  split at h
  · next hop =>
    obtain ⟨doc, rfl, rfl⟩ := ofObjectBody_eq_ok_iff.1 h
    exact ⟨hop.symm, rfl, trivial⟩
  -- What the operator is not is kept for the last case, which is any other operator.
  next hmatch =>
  split at h
  · next hop =>
    obtain ⟨doc, rfl, rfl⟩ := ofObjectBody_eq_ok_iff.1 h
    exact ⟨hop.symm, rfl, trivial⟩
  next hlookup =>
  split at h
  · next hop =>
    obtain ⟨doc, rfl, rfl⟩ := ofObjectBody_eq_ok_iff.1 h
    exact ⟨hop.symm, rfl, trivial⟩
  next hgroup =>
  split at h
  · next hop =>
    split at h
    · next hpath =>
      cases h
      exact ⟨hop.symm, rfl, hpath⟩
    · cases h
  next hunwind =>
  split at h
  · next hop => cases h; exact ⟨hop.symm, rfl, trivial⟩
  next hproject =>
  split at h
  · next hop => cases h; exact ⟨hop.symm, rfl, trivial⟩
  next hsort =>
  split at h
  · next hop => cases h; exact ⟨hop.symm, rfl, trivial⟩
  next hlimit =>
  cases h
  refine ⟨rfl, rfl, by simpa using hkey, ?_⟩
  simp [knownOperators, hmatch, hunwind, hlookup, hgroup, hproject, hsort, hlimit]

/-- A value holds a stage exactly when it is the written form of that stage. -/
theorem ofJson_eq_ok_iff {value : Json} {stage : Stage} :
    ofJson value = .ok stage ↔ value = stage.toJson ∧ stage.WellFormed := by
  constructor
  · intro h
    unfold ofJson at h
    split at h
    · next op body =>
      obtain ⟨rfl, rfl, hwf⟩ := of_ofParts h
      exact ⟨rfl, hwf⟩
    · cases h
    · cases h
  · rintro ⟨rfl, hwf⟩
    exact ofParts_operator_body hwf

theorem isUnwind_of_wellFormed {stage : Stage} (h : stage.WellFormed) :
    stage.isUnwind = decide (stage.operator = "$unwind") := by
  cases stage with
  | custom op body =>
    have hop : op ≠ "$unwind" := by
      rintro rfl
      exact h.2 (by decide)
    simp [isUnwind, operator, hop]
  | _ => rfl

end ReportQuery.Stage
