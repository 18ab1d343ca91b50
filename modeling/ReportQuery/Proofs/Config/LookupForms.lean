import ReportQuery.Pipeline.Assembly
import ReportQuery.Proofs.Entries
import ReportQuery.Proofs.Json.Acceptance

/-!
# Forms of lookups

The forms of a lookup are tried in turn, and any misfit in one of them leads to the next. The last
form needs nothing and passes over the fields of a join. So an object that names a join is taken for
an incomplete lookup as soon as another of its fields is missing or of a wrong kind, and the pipeline
goes without the join. It is kept where all fields are as the forms have them.

Main statement: `form_of_object`.
-/

namespace ReportQuery.Lookup

open Json (Field Has Kind MayHave Shape has_iff)
open Json.Decoder

/-! ## Objects -/

/-- The object has all that a correlated join needs, and nothing else of one that does not fit. -/
structure Correlates (doc : Document) : Prop where
  collection : Has doc "from" .text
  output : Has doc "as" .text
  bindings : MayHave doc "let" .object
  pipeline : Has doc "pipeline" .list
  unwind : MayHave doc "unwind" .flag

/-- The object has all that an equality join needs, and nothing else of one that does not fit. -/
structure Equates (doc : Document) : Prop where
  collection : Has doc "from" .text
  output : Has doc "as" .text
  localField : Has doc "localField" .text
  foreignField : Has doc "foreignField" .text
  unwind : MayHave doc "unwind" .flag

/-- Collection and output are texts where they are given. -/
structure Labelled (doc : Document) : Prop where
  collection : MayHave doc "from" .text
  output : MayHave doc "as" .text

/-- The object names a join: it has a pipeline, or a field on both sides. -/
def NamesJoin (doc : Document) : Prop :=
  (∃ v, Entries.get? "pipeline" doc = some v ∧ v ≠ .null) ∨
    ("localField" ∈ Entries.keys doc ∧ "foreignField" ∈ Entries.keys doc)

/-- Collection and output are given, and every field is of its kind. The pipeline may be null. -/
structure WellFormed (doc : Document) : Prop where
  collection : Has doc "from" .text
  output : Has doc "as" .text
  bindings : MayHave doc "let" .object
  pipeline : ∀ v, Entries.get? "pipeline" doc = some v → v ≠ .null → Kind.list.Fits v
  localField : MayHave doc "localField" .text
  foreignField : MayHave doc "foreignField" .text
  unwind : MayHave doc "unwind" .flag

theorem Correlates.labelled {doc : Document} (h : Correlates doc) : Labelled doc :=
  ⟨(has_iff.1 h.collection).1, (has_iff.1 h.output).1⟩

theorem Equates.labelled {doc : Document} (h : Equates doc) : Labelled doc :=
  ⟨(has_iff.1 h.collection).1, (has_iff.1 h.output).1⟩

theorem WellFormed.namesJoin_iff {doc : Document} (h : WellFormed doc) :
    NamesJoin doc ↔ Correlates doc ∨ Equates doc := by
  constructor
  · rintro (⟨v, hv, hne⟩ | ⟨hlocal, hforeign⟩)
    · have hpipeline : Has doc "pipeline" .list := ⟨v, hv, h.pipeline v hv hne⟩
      exact .inl ⟨h.collection, h.output, h.bindings, hpipeline, h.unwind⟩
    · have hlocal : Has doc "localField" .text := has_iff.2 ⟨h.localField, hlocal⟩
      have hforeign : Has doc "foreignField" .text := has_iff.2 ⟨h.foreignField, hforeign⟩
      exact .inr ⟨h.collection, h.output, hlocal, hforeign, h.unwind⟩
  · rintro (hjoin | hjoin)
    · obtain ⟨v, hv, items, rfl⟩ := hjoin.pipeline
      exact .inl ⟨_, hv, by simp⟩
    · exact .inr ⟨(has_iff.1 hjoin.localField).2, (has_iff.1 hjoin.foreignField).2⟩

/-! ## Forms -/

section Forms

variable {doc : Document}

theorem correlatedShape_accepts_iff (hdoc : (Entries.keys doc).Nodup) :
    Accepts (correlatedShape.decode .value) (.object doc) ↔ Correlates doc := by
  have hsteady : ∀ field ∈ correlatedShape.fields, field.Steady := by
    simp [correlatedShape, Field.steady_of]
  rw [Shape.accepts_object_iff .value (by decide) hsteady (by decide) hdoc]
  simp only [Shape.Takes, correlatedShape, List.forall_mem_cons,
    Field.forall_accepts_of_iff (fun _ => accepts_text_iff) correlatedShape.initial,
    Field.forall_accepts_of_iff (fun _ => accepts_document_iff) correlatedShape.initial,
    Field.forall_accepts_of_iff (fun _ => accepts_values_iff) correlatedShape.initial,
    Field.forall_accepts_of_iff (fun _ => accepts_bool_iff) correlatedShape.initial]
  constructor
  · rintro ⟨⟨hfrom, has, hlet, hpipeline, hunwind, -⟩, hfrom', has', hpipeline', -⟩
    exact ⟨has_iff.2 ⟨hfrom, hfrom'⟩, has_iff.2 ⟨has, has'⟩, hlet,
      has_iff.2 ⟨hpipeline, hpipeline'⟩, hunwind⟩
  · intro h
    obtain ⟨hfrom, hfrom'⟩ := has_iff.1 h.collection
    obtain ⟨has, has'⟩ := has_iff.1 h.output
    obtain ⟨hpipeline, hpipeline'⟩ := has_iff.1 h.pipeline
    exact ⟨⟨hfrom, has, h.bindings, hpipeline, h.unwind, List.forall_mem_nil _⟩,
      hfrom', has', hpipeline', List.forall_mem_nil _⟩

theorem equalityShape_accepts_iff (hdoc : (Entries.keys doc).Nodup) :
    Accepts (equalityShape.decode .value) (.object doc) ↔ Equates doc := by
  have hsteady : ∀ field ∈ equalityShape.fields, field.Steady := by
    simp [equalityShape, Field.steady_of]
  rw [Shape.accepts_object_iff .value (by decide) hsteady (by decide) hdoc]
  simp only [Shape.Takes, equalityShape, List.forall_mem_cons,
    Field.forall_accepts_of_iff (fun _ => accepts_text_iff) equalityShape.initial,
    Field.forall_accepts_of_iff (fun _ => accepts_bool_iff) equalityShape.initial]
  constructor
  · rintro ⟨⟨hfrom, has, hlocal, hforeign, hunwind, -⟩, hfrom', has', hlocal', hforeign', -⟩
    exact ⟨has_iff.2 ⟨hfrom, hfrom'⟩, has_iff.2 ⟨has, has'⟩, has_iff.2 ⟨hlocal, hlocal'⟩,
      has_iff.2 ⟨hforeign, hforeign'⟩, hunwind⟩
  · intro h
    obtain ⟨hfrom, hfrom'⟩ := has_iff.1 h.collection
    obtain ⟨has, has'⟩ := has_iff.1 h.output
    obtain ⟨hlocal, hlocal'⟩ := has_iff.1 h.localField
    obtain ⟨hforeign, hforeign'⟩ := has_iff.1 h.foreignField
    exact ⟨⟨hfrom, has, hlocal, hforeign, h.unwind, List.forall_mem_nil _⟩,
      hfrom', has', hlocal', hforeign', List.forall_mem_nil _⟩

theorem incompleteShape_accepts_iff (hdoc : (Entries.keys doc).Nodup) :
    Accepts (incompleteShape.decode .value) (.object doc) ↔ Labelled doc := by
  have hsteady : ∀ field ∈ incompleteShape.fields, field.Steady := by
    simp [incompleteShape, Field.steady_of]
  rw [Shape.accepts_object_iff .value (by decide) hsteady (by decide) hdoc]
  simp only [Shape.Takes, incompleteShape, List.forall_mem_cons,
    Field.forall_accepts_of_iff (fun _ => accepts_text_iff) incompleteShape.initial]
  constructor
  · rintro ⟨⟨hfrom, has, -⟩, -⟩
    exact ⟨hfrom, has⟩
  · intro h
    exact ⟨⟨h.collection, h.output, List.forall_mem_nil _⟩, List.forall_mem_nil _⟩

theorem decode_eq_ok_iff {v : Json} {lookup : Lookup} :
    decode (.ofJson v) = .ok lookup ↔
      (∃ l, correlatedShape.decode .value (.ofJson v) = .ok l ∧ correlated l = lookup) ∨
        ¬Accepts (correlatedShape.decode .value) v ∧
          ((∃ l, equalityShape.decode .value (.ofJson v) = .ok l ∧ equality l = lookup) ∨
            ¬Accepts (equalityShape.decode .value) v ∧
              ∃ l, incompleteShape.decode .value (.ofJson v) = .ok l ∧ incomplete l = lookup) := by
  unfold decode
  rw [firstOf_cons, firstOf_cons, firstOf_cons, Json.map_eq_ok_iff, Json.map_eq_ok_iff,
    Json.map_eq_ok_iff, forall_map_ne_ok_iff, forall_map_ne_ok_iff]
  simp only [firstOf_nil, and_false, or_false]

theorem loads_correlated_iff (hdoc : (Entries.keys doc).Nodup) :
    (∃ l, decode (.ofJson (.object doc)) = .ok (.correlated l)) ↔ Correlates doc := by
  simp [decode_eq_ok_iff, ← correlatedShape_accepts_iff hdoc, Accepts]

theorem loads_equality_iff (hdoc : (Entries.keys doc).Nodup) :
    (∃ l, decode (.ofJson (.object doc)) = .ok (.equality l)) ↔
      ¬Correlates doc ∧ Equates doc := by
  simp [decode_eq_ok_iff, ← correlatedShape_accepts_iff hdoc, ← equalityShape_accepts_iff hdoc,
    Accepts]

theorem loads_incomplete_iff (hdoc : (Entries.keys doc).Nodup) :
    (∃ l, decode (.ofJson (.object doc)) = .ok (.incomplete l)) ↔
      ¬Correlates doc ∧ ¬Equates doc ∧ Labelled doc := by
  simp [decode_eq_ok_iff, ← correlatedShape_accepts_iff hdoc, ← equalityShape_accepts_iff hdoc,
    ← incompleteShape_accepts_iff hdoc, Accepts]

theorem decode_eq_error (hdoc : (Entries.keys doc).Nodup) (h : ¬Labelled doc) :
    decode (.ofJson (.object doc)) = .error (.noVariant "LookupSpec") := by
  refine firstOf_eq_error ?_
  rintro ⟨lookup, hload⟩
  cases lookup with
  | correlated l => exact h ((loads_correlated_iff hdoc).1 ⟨l, hload⟩).labelled
  | equality l => exact h ((loads_equality_iff hdoc).1 ⟨l, hload⟩).2.labelled
  | incomplete l => exact h ((loads_incomplete_iff hdoc).1 ⟨l, hload⟩).2.2

theorem stages_eq_nil_iff {now : Instant} {index : Nat} {lookup : Lookup} :
    lookup.stages now index = [] ↔ ∃ l, lookup = .incomplete l := by
  cases lookup with
  | incomplete l => simp [stages, stage]
  | _ => simp only [stages, stage]; split <;> simp

end Forms

/-- Which form an object is loaded as. The pipeline goes without a join exactly when neither form of
join fits the object, and in a well-formed one that means that it names no join. -/
theorem form_of_object {doc : Document} (hdoc : (Entries.keys doc).Nodup) :
    ((∃ l, decode (.ofJson (.object doc)) = .ok (.correlated l)) ↔ Correlates doc) ∧
      ((∃ l, decode (.ofJson (.object doc)) = .ok (.equality l)) ↔
        ¬Correlates doc ∧ Equates doc) ∧
      ((∃ l, decode (.ofJson (.object doc)) = .ok (.incomplete l)) ↔
        ¬Correlates doc ∧ ¬Equates doc ∧ Labelled doc) ∧
      (¬Labelled doc → decode (.ofJson (.object doc)) = .error (.noVariant "LookupSpec")) ∧
      (∀ lookup now index, decode (.ofJson (.object doc)) = .ok lookup →
        (lookup.stages now index = [] ↔ ¬Correlates doc ∧ ¬Equates doc)) ∧
      (WellFormed doc →
        ((∃ l, decode (.ofJson (.object doc)) = .ok (.incomplete l)) ↔ ¬NamesJoin doc)) := by
  have hcorrelated := loads_correlated_iff hdoc
  have hequality := loads_equality_iff hdoc
  have hincomplete := loads_incomplete_iff hdoc
  refine ⟨hcorrelated, hequality, hincomplete, decode_eq_error hdoc, ?_, ?_⟩
  · intro lookup now index hload
    rw [stages_eq_nil_iff]
    constructor
    · rintro ⟨l, rfl⟩
      have hforms := hincomplete.1 ⟨l, hload⟩
      exact ⟨hforms.1, hforms.2.1⟩
    · rintro ⟨hno, hnot⟩
      cases lookup with
      | correlated l => exact absurd (hcorrelated.1 ⟨l, hload⟩) hno
      | equality l => exact absurd (hequality.1 ⟨l, hload⟩).2 hnot
      | incomplete l => exact ⟨l, rfl⟩
  · intro hdoc
    -- Such an object has its labels, so that the two joins decide.
    have hlabelled : Labelled doc := ⟨(has_iff.1 hdoc.collection).1, (has_iff.1 hdoc.output).1⟩
    rw [hincomplete, hdoc.namesJoin_iff, not_or]
    simp only [hlabelled, and_true]

/-- A join on fields whose flag is a text. -/
def misflagged : Document :=
  [("from", .string "items"), ("as", .string "item"), ("localField", .string "sku"),
    ("foreignField", .string "_id"), ("unwind", .string "yes")]

theorem form_of_object_misflagged :
    (Entries.keys misflagged).Nodup ∧ ¬Correlates misflagged ∧ ¬Equates misflagged ∧
      ∃ l, decode (.ofJson (.object misflagged)) = .ok (.incomplete l) := by
  have hkeys : (Entries.keys misflagged).Nodup := by decide
  have hno : ¬Correlates misflagged := by
    intro h
    obtain ⟨v, hv, -⟩ := h.pipeline
    cases hv
  have hnot : ¬Equates misflagged := by
    intro h
    obtain ⟨b, hb⟩ := h.unwind _ rfl
    cases hb
  obtain ⟨-, -, hincomplete, -⟩ := form_of_object hkeys
  refine ⟨hkeys, hno, hnot, hincomplete.2 ⟨hno, hnot, ?_, ?_⟩⟩
  · rintro v ⟨⟩
    exact ⟨_, rfl⟩
  · rintro v ⟨⟩
    exact ⟨_, rfl⟩

/-- A join of which one field is of a wrong kind is taken for no join. -/
theorem join_lost_by_flag :
    ¬((∃ l, decode (.ofJson (.object misflagged)) = .ok (.incomplete l)) → ¬NamesJoin misflagged) := by
  intro h
  have hload : decode (.ofJson (.object misflagged)) =
      .ok (.incomplete { collection := "items", output := "item" }) := by rfl
  exact h ⟨_, hload⟩ (.inr ⟨by decide, by decide⟩)

end ReportQuery.Lookup
