import ReportQuery.Pipeline.Json
import ReportQuery.Proofs.Json.Reloading
import ReportQuery.Proofs.Pipeline.StageForm

/-!
# Stages as documents

Which documents hold a stage. Its operator is their only key, and the operators that the assembly
places ask for a body of their own form: a predicate, a join and a group are objects, and an unwind
names a path. Reading such a document and writing the stage are inverse, from whatever source the
document comes.

Main statement: `document_codec`.
-/

namespace ReportQuery.Stage

/-! ## Bodies -/

/-- The body of an unwind names the path of its array: it is that path, or has it as an option. -/
inductive NamesPath : Json → String → Prop
  | text (path : String) : NamesPath (.string path) path
  | option {options : Document} {path : String}
    (h : Entries.get? "path" options = some (.string path)) : NamesPath (.object options) path

theorem unwindPath?_eq_some_iff {body : Json} {path : String} :
    unwindPath? body = some path ↔ NamesPath body path := by
  constructor
  · intro h
    cases body with
    | string text => cases h; exact .text path
    | object options =>
      obtain ⟨value, hvalue, htext⟩ := Option.bind_eq_some_iff.1 h
      cases value with
      | string text => cases htext; exact .option hvalue
      | _ => cases htext
    | _ => cases h
  · rintro (_ | h)
    · rfl
    · rw [unwindPath?, h]
      rfl

/-- The body is one that a stage of the operator can have. -/
structure Fits (operator : String) (body : Json) : Prop where
  object : operator ∈ ["$match", "$lookup", "$group"] → ∃ doc, body = .object doc
  path : operator = "$unwind" → ∃ path, NamesPath body path

theorem WellFormed.fits {stage : Stage} (h : stage.WellFormed) : Fits stage.operator stage.body := by
  cases stage with
  | filter doc | lookup doc | group doc => exact ⟨fun _ => ⟨doc, rfl⟩, by simp [operator]⟩
  | unwind body =>
    obtain ⟨path, hpath⟩ := Option.isSome_iff_exists.1 h
    exact ⟨by simp [operator], fun _ => ⟨path, unwindPath?_eq_some_iff.1 hpath⟩⟩
  | project body | sort body | limit body => exact ⟨by simp [operator], by simp [operator]⟩
  | custom op body =>
    have hop := h.2
    simp only [knownOperators, List.mem_cons, List.not_mem_nil, or_false, not_or] at hop
    exact ⟨by simp [operator, hop], by simp [operator, hop]⟩

theorem exists_of_fits {operator : String} {body : Json} (hkey : isOperatorKey operator = true)
    (h : Fits operator body) :
    ∃ stage : Stage, stage.operator = operator ∧ stage.body = body ∧ stage.WellFormed := by
  by_cases hknown : operator ∈ knownOperators
  · simp only [knownOperators, List.mem_cons, List.not_mem_nil, or_false] at hknown
    rcases hknown with rfl | rfl | rfl | rfl | rfl | rfl | rfl
    · obtain ⟨doc, rfl⟩ := h.object (by decide)
      exact ⟨.filter doc, rfl, rfl, trivial⟩
    · obtain ⟨path, hpath⟩ := h.path rfl
      exact ⟨.unwind body, rfl, rfl, by rw [WellFormed, unwindPath?_eq_some_iff.2 hpath]; rfl⟩
    · obtain ⟨doc, rfl⟩ := h.object (by decide)
      exact ⟨.lookup doc, rfl, rfl, trivial⟩
    · obtain ⟨doc, rfl⟩ := h.object (by decide)
      exact ⟨.group doc, rfl, rfl, trivial⟩
    · exact ⟨.project body, rfl, rfl, trivial⟩
    · exact ⟨.sort body, rfl, rfl, trivial⟩
    · exact ⟨.limit body, rfl, rfl, trivial⟩
  · exact ⟨.custom operator body, rfl, rfl, hkey, hknown⟩

/-- A document holds a stage exactly when an operator is its only key and the body fits it. -/
theorem holds_stage_iff {doc : Json} :
    (∃ stage, ofJson doc = .ok stage) ↔
      ∃ operator body, doc = .object [(operator, body)] ∧ operator.toList.head? = some '$' ∧
        Fits operator body := by
  constructor
  · rintro ⟨stage, h⟩
    obtain ⟨rfl, hwf⟩ := ofJson_eq_ok_iff.1 h
    exact ⟨stage.operator, stage.body, rfl, by simpa [isOperatorKey] using isOperatorKey_operator hwf,
      hwf.fits⟩
  · rintro ⟨operator, body, rfl, hkey, hfits⟩
    obtain ⟨stage, rfl, rfl, hwf⟩ := exists_of_fits (by simpa [isOperatorKey] using hkey) hfits
    exact ⟨stage, ofJson_eq_ok_iff.2 ⟨rfl, hwf⟩⟩

/-! ## Rejected documents -/

/-- Why a document holds no stage. Of several faults the outermost is told. -/
inductive Rejects : Json → StageError → Prop
  | notAnObject {value : Json} (h : ∀ fields, value ≠ .object fields) : Rejects value .notAnObject
  | operatorCount {fields : Document} (h : fields.length ≠ 1) :
    Rejects (.object fields) (.operatorCount fields.length)
  | notAnOperator {key : String} (body : Json) (h : key.toList.head? ≠ some '$') :
    Rejects (.object [(key, body)]) (.notAnOperator key)
  | noObject {operator : String} {body : Json} (hop : operator ∈ ["$match", "$lookup", "$group"])
    (h : ∀ doc, body ≠ .object doc) :
    Rejects (.object [(operator, body)]) (.invalidBody operator "an object")
  | noPath {body : Json} (h : ∀ path, ¬NamesPath body path) :
    Rejects (.object [("$unwind", body)])
      (.invalidBody "$unwind" "a path string or an object with `path`")

theorem Rejects.ofJson_eq {doc : Json} {reason : StageError} (h : Rejects doc reason) :
    ofJson doc = .error reason := by
  cases h with
  | notAnObject h =>
    cases doc with
    | object fields => exact absurd rfl (h fields)
    | _ => rfl
  | @operatorCount fields h =>
    match fields, h with
    | [], _ => rfl
    | [_], h => exact absurd rfl h
    | _ :: _ :: _, _ => rfl
  | notAnOperator body h => simp [ofJson, ofParts, isOperatorKey, h]
  | @noObject operator body hop h =>
    -- The three operators differ only in the stage that they make of an object.
    have hbody : ∀ make : Document → Stage,
        ofObjectBody operator make body = .error (.invalidBody operator "an object") := by
      intro make
      cases body with
      | object doc => exact absurd rfl (h doc)
      | _ => rfl
    simp only [List.mem_cons, List.not_mem_nil, or_false] at hop
    rcases hop with rfl | rfl | rfl <;> exact hbody _
  | @noPath body h =>
    have hpath : unwindPath? body = none := by
      refine Option.eq_none_iff_forall_ne_some.2 fun path hpath => ?_
      exact h path (unwindPath?_eq_some_iff.1 hpath)
    simp [ofJson, ofParts, isOperatorKey, hpath]

theorem exists_rejects {doc : Json} (h : ¬∃ stage, ofJson doc = .ok stage) :
    ∃ reason, Rejects doc reason := by
  rw [holds_stage_iff] at h
  -- From the outside in, what fails first is the reason.
  by_cases hdoc : ∃ fields, doc = .object fields
  · obtain ⟨fields, rfl⟩ := hdoc
    by_cases hcount : fields.length = 1
    · obtain ⟨⟨operator, body⟩, rfl⟩ := List.length_eq_one_iff.1 hcount
      by_cases hkey : operator.toList.head? = some '$'
      · by_cases hobject : operator ∈ ["$match", "$lookup", "$group"] → ∃ fields, body = .object fields
        · have hpath : ¬(operator = "$unwind" → ∃ path, NamesPath body path) := fun hpath =>
            h ⟨operator, body, rfl, hkey, hobject, hpath⟩
          obtain ⟨rfl, hnone⟩ := Classical.not_imp.1 hpath
          exact ⟨_, .noPath (not_exists.1 hnone)⟩
        · obtain ⟨hop, hnone⟩ := Classical.not_imp.1 hobject
          exact ⟨_, .noObject hop (not_exists.1 hnone)⟩
      · exact ⟨_, .notAnOperator body hkey⟩
    · exact ⟨_, .operatorCount hcount⟩
  · exact ⟨_, .notAnObject (not_exists.1 hdoc)⟩

theorem ofJson_eq_error_iff {doc : Json} {reason : StageError} :
    ofJson doc = .error reason ↔ Rejects doc reason := by
  constructor
  · intro h
    have hnone : ¬∃ stage, ofJson doc = .ok stage := by
      rintro ⟨stage, hstage⟩
      rw [h] at hstage
      cases hstage
    obtain ⟨first, hfirst⟩ := exists_rejects hnone
    rw [hfirst.ofJson_eq] at h
    cases h
    exact hfirst
  · exact Rejects.ofJson_eq

/-! ## Loading and writing -/

theorem load_eq_ok_iff {value : Json} {stage : Stage} :
    load value = .ok stage ↔ ofJson value = .ok stage :=
  Json.mapError_eq_ok_iff

theorem load_of_error {value : Json} {reason : StageError} (h : ofJson value = .error reason) :
    load value = .error (.custom reason.message) := by
  rw [load, h]
  rfl

theorem decode_eq_ok_iff {source : Json.Source} {stage : Stage} :
    decode source = .ok stage ↔ ∃ doc, source.toJson = .ok doc ∧ ofJson doc = .ok stage := by
  unfold decode Json.Decoder.value
  rw [Json.bind_eq_ok_iff]
  simp only [Json.mapError_eq_ok_iff, load_eq_ok_iff]

theorem decode_of_toJson {source : Json.Source} {doc : Json} (h : source.toJson = .ok doc) :
    decode source = load doc := by
  unfold decode Json.Decoder.value
  rw [h]
  rfl

theorem toText_eq (stage : Stage) : stage.toText = stage.toJson.toText := by
  unfold toText Json.toText toJson
  rw [Json.compact, Json.compactFields]
  rfl

/-- A document holds a stage exactly when an operator is its only key, with a body that fits it; else
it is rejected for its outermost fault. The stage is written as that document, and a written stage
that is well formed is read again as it was. A stage is loaded from any source of its document, and
its text is that of its document. -/
theorem document_codec :
    (∀ doc, (∃ stage, ofJson doc = .ok stage) ↔
      ∃ operator body, doc = .object [(operator, body)] ∧ operator.toList.head? = some '$' ∧
        Fits operator body) ∧
      (∀ doc reason, ofJson doc = .error reason ↔ Rejects doc reason) ∧
      (∀ doc stage, ofJson doc = .ok stage → stage.toJson = doc) ∧
      (∀ stage : Stage, ofJson stage.toJson = .ok stage ↔ stage.WellFormed) ∧
      (∀ source stage, decode source = .ok stage ↔
        ∃ doc, source.toJson = .ok doc ∧ ofJson doc = .ok stage) ∧
      (∀ source doc reason, source.toJson = .ok doc → ofJson doc = .error reason →
        decode source = .error (.custom reason.message)) ∧
      ∀ stage : Stage, stage.toText = stage.toJson.toText := by
  refine ⟨fun _ => holds_stage_iff, fun _ _ => ofJson_eq_error_iff, ?_, ?_, fun _ _ => decode_eq_ok_iff,
    ?_, toText_eq⟩
  · intro doc stage h
    exact (ofJson_eq_ok_iff.1 h).1.symm
  · intro stage
    rw [ofJson_eq_ok_iff, eq_self, true_and]
  · intro source doc reason hsource h
    rw [decode_of_toJson hsource, load_of_error h]

/-- A source that gives the operator of an unwind twice. The last of its bodies counts. -/
def unwindTwice (last : Json.Source) : Json.Source :=
  .object [(.ok "$unwind", .object [] none), (.ok "$unwind", last)] none

theorem document_codec_of_unwindTwice :
    ofJson (.object [("$unwind", .string "$items")]) = .ok (.unwind (.string "$items")) ∧
      (unwind (.string "$items")).toJson = .object [("$unwind", .string "$items")] ∧
      decode (unwindTwice (.string "$items")) = .ok (.unwind (.string "$items")) ∧
      (unwindTwice .null).toJson = .ok (.object [("$unwind", .null)]) ∧
      decode (unwindTwice .null) = .error
        (.custom "$unwind body must be a path string or an object with `path`") := by
  obtain ⟨-, hrejects, hwrites, hreads, hloads, hfails, -⟩ := document_codec
  have hread : ofJson (.object [("$unwind", .string "$items")]) = .ok (.unwind (.string "$items")) :=
    (hreads (.unwind (.string "$items"))).2 rfl
  have hnone : ofJson (.object [("$unwind", .null)]) =
      .error (.invalidBody "$unwind" "a path string or an object with `path`") :=
    (hrejects _ _).2 (.noPath (by rintro path ⟨⟩))
  have hsource : (unwindTwice .null).toJson = .ok (.object [("$unwind", .null)]) := by rfl
  exact ⟨hread, hwrites _ _ hread, (hloads _ _).2 ⟨_, rfl, hread⟩, hsource, hfails _ _ _ hsource hnone⟩

end ReportQuery.Stage
