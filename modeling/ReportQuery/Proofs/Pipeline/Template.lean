import ReportQuery.Proofs.Pipeline.ElementMatch

/-!
# Templates

A template is read after its placeholders are resolved, but that makes no difference to whether it
can be read: resolving a stage and reading it can change places. So a template fails with the first of
its own stages that is none, and otherwise comes out stage by stage as it was written, with its
placeholders resolved.

Main statement: `assemble_template_lossless`.
-/

namespace ReportQuery

open ReportQuery.Filter (Fragments)

/-! ## Results -/

section Results

variable {ε α β : Type} {x : Except ε α}

theorem map_eq_error_iff {f : α → β} {error : ε} : x.map f = .error error ↔ x = .error error := by
  cases x <;> simp [Except.map]

theorem not_exists_eq_ok_iff : (¬∃ a, x = .ok a) ↔ ∃ error, x = .error error := by
  cases x <;> simp

end Results

/-! ## Stages with placeholders -/

theorem isSome_unwindPath?_resolveUnder (now : Instant) (key : Option String) (body : Json) :
    (unwindPath? (body.resolveUnder now key)).isSome = (unwindPath? body).isSome := by
  cases body with
  | object fields =>
    simp only [Json.resolveUnder, unwindPath?, Json.get?_resolveFields]
    cases Entries.get? "path" fields with
    | none => rfl
    | some path => cases path <;> rfl
  | _ => rfl

namespace Stage

/-- The stage with the placeholders of its body resolved. -/
def resolve (now : Instant) : Stage → Stage
  | filter doc => filter (Json.resolveFields now doc)
  | unwind body => unwind (body.resolveUnder now (some "$unwind"))
  | lookup doc => lookup (Json.resolveFields now doc)
  | group doc => group (Json.resolveFields now doc)
  | project body => project (body.resolveUnder now (some "$project"))
  | sort body => sort (body.resolveUnder now (some "$sort"))
  | limit body => limit (body.resolveUnder now (some "$limit"))
  | custom operator body => custom operator (body.resolveUnder now (some operator))

theorem ofObjectBody_resolveUnder {make : Document → Stage} {now : Instant}
    (hmake : ∀ doc, make (Json.resolveFields now doc) = (make doc).resolve now)
    (operator : String) (key : Option String) (body : Json) :
    ofObjectBody operator make (body.resolveUnder now key) =
      (ofObjectBody operator make body).map (resolve now) := by
  cases body with
  | object doc => exact congrArg Except.ok (hmake doc)
  | _ => rfl

theorem ofParts_resolveUnder (now : Instant) (operator : String) (body : Json) :
    ofParts operator (body.resolveUnder now (some operator)) =
      (ofParts operator body).map (resolve now) := by
  unfold ofParts
  split
  · rfl
  split
  · exact ofObjectBody_resolveUnder (fun _ => rfl) ..
  split
  · exact ofObjectBody_resolveUnder (fun _ => rfl) ..
  split
  · exact ofObjectBody_resolveUnder (fun _ => rfl) ..
  split
  · next hunwind =>
    rw [isSome_unwindPath?_resolveUnder, hunwind]
    split <;> rfl
  split
  · next hproject => rw [hproject]; rfl
  split
  · next hsort => rw [hsort]; rfl
  split
  · next hlimit => rw [hlimit]; rfl
  · rfl

/-- Reading a stage and resolving its placeholders can change places. -/
theorem ofJson_resolve (now : Instant) (doc : Json) :
    ofJson (doc.resolve now) = (ofJson doc).map (resolve now) := by
  cases doc with
  | object fields =>
    match fields with
    | [] => rfl
    | [(operator, body)] => exact ofParts_resolveUnder now operator body
    | _ :: _ :: rest =>
      simp [Json.resolve, Json.resolveUnder, Json.resolveFields, Json.resolveFields_eq_mapValues,
        Entries.mapValues, ofJson, Except.map]
  | _ => rfl

theorem ofJson_resolve_eq_error_iff {now : Instant} {doc : Json} {reason : StageError} :
    ofJson (doc.resolve now) = .error reason ↔ ofJson doc = .error reason := by
  rw [ofJson_resolve]
  cases ofJson doc <;> simp [Except.map]

end Stage

namespace Pipeline

/-! ## The first stage that is none -/

/-- The document can be read as a stage. -/
def IsStage (doc : Json) : Prop := ∃ stage, Stage.ofJson doc = .ok stage

/-- The document at `index` is no stage, for this reason, and all before it are. -/
structure FirstRejected (docs : List Json) (index : Nat) (reason : StageError) : Prop where
  rejected : ∃ doc, docs[index]? = some doc ∧ Stage.ofJson doc = .error reason
  accepted : ∀ earlier < index, ∃ doc, docs[earlier]? = some doc ∧ IsStage doc

theorem not_isStage_iff {doc : Json} : ¬IsStage doc ↔ ∃ reason, Stage.ofJson doc = .error reason :=
  not_exists_eq_ok_iff

theorem isStage_resolve_iff {now : Instant} {doc : Json} :
    IsStage (doc.resolve now) ↔ IsStage doc := by
  rw [← not_iff_not, not_isStage_iff, not_isStage_iff]
  simp only [Stage.ofJson_resolve_eq_error_iff]

theorem not_firstRejected_nil {index : Nat} {reason : StageError} :
    ¬FirstRejected [] index reason := by
  rintro ⟨⟨doc, hdoc, -⟩, -⟩
  cases hdoc

theorem firstRejected_cons_of_error {doc : Json} {cause : StageError}
    (h : Stage.ofJson doc = .error cause) {rest : List Json} {index : Nat} {reason : StageError} :
    FirstRejected (doc :: rest) index reason ↔ index = 0 ∧ reason = cause := by
  constructor
  · rintro ⟨⟨other, hother, hreason⟩, haccepted⟩
    cases index with
    | zero =>
      cases hother
      rw [h] at hreason
      cases hreason
      exact ⟨rfl, rfl⟩
    | succ before =>
      obtain ⟨first, hfirst, hstage⟩ := haccepted 0 before.succ_pos
      cases hfirst
      exact absurd hstage (not_isStage_iff.2 ⟨cause, h⟩)
  · rintro ⟨rfl, rfl⟩
    exact ⟨⟨doc, rfl, h⟩, fun earlier hearlier => absurd hearlier earlier.not_lt_zero⟩

theorem firstRejected_cons_of_isStage {doc : Json} (h : IsStage doc) {rest : List Json} {index : Nat}
    {reason : StageError} :
    FirstRejected (doc :: rest) index reason ↔
      ∃ before, FirstRejected rest before reason ∧ index = before + 1 := by
  constructor
  · rintro ⟨⟨other, hother, hreason⟩, haccepted⟩
    cases index with
    | zero =>
      cases hother
      exact absurd h (not_isStage_iff.2 ⟨reason, hreason⟩)
    | succ before =>
      exact ⟨before, ⟨⟨other, hother, hreason⟩,
        fun earlier hearlier => haccepted (earlier + 1) (Nat.succ_lt_succ hearlier)⟩, rfl⟩
  · rintro ⟨before, ⟨hrejected, haccepted⟩, rfl⟩
    refine ⟨hrejected, fun earlier hearlier => ?_⟩
    cases earlier with
    | zero => exact ⟨doc, rfl, h⟩
    | succ earlier => exact haccepted earlier (Nat.lt_of_succ_lt_succ hearlier)

theorem exists_firstRejected_iff {docs : List Json} :
    (∃ index reason, FirstRejected docs index reason) ↔ ¬∀ doc ∈ docs, IsStage doc := by
  induction docs with
  | nil => simp [not_firstRejected_nil]
  | cons doc rest ih =>
    rw [List.forall_mem_cons]
    by_cases hdoc : IsStage doc
    · simp only [firstRejected_cons_of_isStage hdoc, hdoc, true_and, ← ih]
      constructor
      · rintro ⟨-, reason, before, hrest, -⟩
        exact ⟨before, reason, hrest⟩
      · rintro ⟨before, reason, hrest⟩
        exact ⟨_, reason, before, hrest, rfl⟩
    · obtain ⟨cause, hcause⟩ := not_isStage_iff.1 hdoc
      simp [firstRejected_cons_of_error hcause, hdoc]

theorem firstRejected_map_resolve_iff {now : Instant} {docs : List Json} {index : Nat}
    {reason : StageError} :
    FirstRejected (docs.map (Json.resolve now)) index reason ↔ FirstRejected docs index reason := by
  constructor
  · rintro ⟨hrejected, haccepted⟩
    simp only [List.getElem?_map, Option.map_eq_some_iff] at hrejected haccepted
    obtain ⟨_, ⟨doc, hdoc, rfl⟩, hreason⟩ := hrejected
    refine ⟨⟨doc, hdoc, Stage.ofJson_resolve_eq_error_iff.1 hreason⟩, fun earlier hearlier => ?_⟩
    obtain ⟨_, ⟨other, hother, rfl⟩, hstage⟩ := haccepted earlier hearlier
    exact ⟨other, hother, isStage_resolve_iff.1 hstage⟩
  · rintro ⟨⟨doc, hdoc, hreason⟩, haccepted⟩
    refine ⟨⟨doc.resolve now, by rw [List.getElem?_map, hdoc]; rfl,
      Stage.ofJson_resolve_eq_error_iff.2 hreason⟩, fun earlier hearlier => ?_⟩
    obtain ⟨other, hother, hstage⟩ := haccepted earlier hearlier
    exact ⟨other.resolve now, by rw [List.getElem?_map, hother]; rfl, isStage_resolve_iff.2 hstage⟩

/-! ## Reading templates -/

theorem ofTemplate_eq_error_iff {config : String} {pending : List Stage} {start : Nat}
    {docs : List Json} {error : ConfigError} :
    ofTemplate config pending start docs = .error error ↔
      ∃ index reason, FirstRejected docs index reason ∧
        error = .invalidStage config (start + index) reason := by
  rw [ofTemplate_eq_map_afterFirstUnwind, map_eq_error_iff]
  induction docs generalizing start with
  | nil => simp [ofTemplate, not_firstRejected_nil]
  | cons doc rest ih =>
    cases hdoc : Stage.ofJson doc with
    | error cause =>
      simp only [firstRejected_cons_of_error hdoc, ofTemplate, hdoc]
      constructor
      · rintro ⟨⟩
        exact ⟨0, cause, ⟨rfl, rfl⟩, rfl⟩
      · rintro ⟨_, _, ⟨rfl, rfl⟩, rfl⟩
        rfl
    | ok stage =>
      rw [ofTemplate_cons hdoc]
      simp only [List.singleton_append, ite_self, map_eq_error_iff, ih,
        firstRejected_cons_of_isStage ⟨stage, hdoc⟩]
      constructor
      · rintro ⟨before, reason, hrest, rfl⟩
        exact ⟨before + 1, reason, ⟨before, hrest, rfl⟩, by rw [Nat.add_right_comm, Nat.add_assoc]⟩
      · rintro ⟨_, reason, ⟨before, hrest, rfl⟩, rfl⟩
        exact ⟨before, reason, hrest, by rw [Nat.add_right_comm, Nat.add_assoc]⟩

theorem map_toJson_of_ofTemplate {config : String} {index : Nat} {docs : List Json}
    {stages : List Stage} (h : ofTemplate config [] index docs = .ok stages) :
    stages.map Stage.toJson = docs := by
  have hmap :=
    map_eq_of_ofTemplate (g := id) (fun hdoc => (Stage.ofJson_eq_ok_iff.1 hdoc).1.symm) h
  rwa [List.map_id] at hmap

/-! ## Configurations with a template -/

section Template

variable {config : Config} {template : List Json} {now : Instant} {f : Fragments}

theorem assemble_eq_error_iff (hp : config.pipeline = some template) {error : ConfigError} :
    assemble now config f = .error error ↔
      ∃ index reason, FirstRejected template index reason ∧
        error = .invalidStage config.name index reason := by
  rw [assemble_of_template hp, map_eq_error_iff, ofTemplate_eq_error_iff, Json.resolveItems_none]
  simp only [firstRejected_map_resolve_iff, Nat.zero_add]

theorem exists_assemble_eq_ok_iff (hp : config.pipeline = some template) :
    (∃ stages, assemble now config f = .ok stages) ↔ ∀ doc ∈ template, IsStage doc := by
  rw [← not_iff_not, not_exists_eq_ok_iff, ← exists_firstRejected_iff]
  simp only [assemble_eq_error_iff hp]
  constructor
  · rintro ⟨_, index, reason, h, -⟩
    exact ⟨index, reason, h⟩
  · rintro ⟨index, reason, h⟩
    exact ⟨_, index, reason, h, rfl⟩

theorem exists_own_stages_of_assemble (hp : config.pipeline = some template) {stages : List Stage}
    (h : assemble now config f = .ok stages) :
    ∃ own, own.map Stage.toJson = template.map (Json.resolve now) ∧
      InsertsElementMatch config f.elements (.filter f.base :: own) stages := by
  obtain ⟨plain, hplain, hinserts⟩ := insertsElementMatch_of_template hp h
  rw [assemble_of_template hp, elementMatch_nil, Json.resolveItems_none] at hplain
  cases hown : ofTemplate config.name [] 0 (template.map (Json.resolve now)) with
  | error e => rw [hown] at hplain; cases hplain
  | ok own =>
    rw [hown] at hplain
    cases hplain
    exact ⟨own, map_toJson_of_ofTemplate hown, hinserts⟩

end Template

/-- A template is assembled exactly when each of its documents is a stage. If it fails, the first
document that is none says why; else the stages between the base match and the element match are
written as the template is, with its placeholders resolved. -/
theorem assemble_template_lossless {config : Config} {template : List Json}
    (hp : config.pipeline = some template) (now : Instant) (f : Fragments) :
    ((∃ stages, assemble now config f = .ok stages) ↔ ∀ doc ∈ template, IsStage doc) ∧
      (∀ error, assemble now config f = .error error ↔
        ∃ index reason, FirstRejected template index reason ∧
          error = .invalidStage config.name index reason) ∧
      ∀ stages, assemble now config f = .ok stages →
        ∃ own, own.map Stage.toJson = template.map (Json.resolve now) ∧
          InsertsElementMatch config f.elements (.filter f.base :: own) stages :=
  ⟨exists_assemble_eq_ok_iff hp, fun _ => assemble_eq_error_iff hp,
    fun _ => exists_own_stages_of_assemble hp⟩

/-- Items seen in the last week. -/
def recentItems : Config where
  baseFilter := [("documentType", .string "order")]
  pipeline := some [
    .object [("$match", .object [("seenAt", .object [("$gte", .string "now-7d")])])],
    .object [("$unwind", .object [("path", .string "$lineItems")])],
    .object [("$addFields", .object [("on", .string "now")])]]

/-- The second stage has two operators, and the third none. -/
def brokenItems : Config where
  name := "items"
  pipeline := some [
    .object [("$match", .object [("seenAt", .string "now")])],
    .object [("$sort", .object []), ("$limit", .one)],
    .string "now"]

theorem assemble_template_lossless_of_items :
    (∃ stages own, assemble .epoch recentItems ⟨recentItems.baseFilter, [("sku", .string "A")]⟩ =
        .ok stages ∧
      own.map Stage.toJson = (recentItems.pipeline.getD []).map (Json.resolve .epoch) ∧
      InsertsElementMatch recentItems [("sku", .string "A")]
        (.filter recentItems.baseFilter :: own) stages) ∧
    assemble .epoch brokenItems ⟨[], []⟩ = .error (.invalidStage "items" 1 (.operatorCount 2)) := by
  have hrecent : recentItems.pipeline = some (recentItems.pipeline.getD []) := rfl
  have hbroken : brokenItems.pipeline = some (brokenItems.pipeline.getD []) := rfl
  constructor
  · obtain ⟨hok, -, hown⟩ := assemble_template_lossless hrecent .epoch
      ⟨recentItems.baseFilter, [("sku", .string "A")]⟩
    have haccepted : ∀ doc ∈ recentItems.pipeline.getD [], IsStage doc := by
      intro doc hdoc
      simp only [recentItems, Option.getD_some, List.mem_cons, List.not_mem_nil, or_false] at hdoc
      rcases hdoc with rfl | rfl | rfl <;> exact ⟨_, rfl⟩
    obtain ⟨stages, hstages⟩ := hok.2 haccepted
    obtain ⟨own, hwritten, hinserts⟩ := hown stages hstages
    exact ⟨stages, own, hstages, hwritten, hinserts⟩
  · obtain ⟨-, herror, -⟩ := assemble_template_lossless hbroken .epoch ⟨[], []⟩
    refine (herror _).2 ⟨1, .operatorCount 2, ⟨⟨_, rfl, rfl⟩, fun earlier hearlier => ?_⟩, rfl⟩
    obtain rfl : earlier = 0 := by omega
    exact ⟨_, rfl, _, rfl⟩

end Pipeline

end ReportQuery
