import ReportQuery.Execution

/-!
# Runs and their stores

A report that cannot be compiled never reaches the store. Any other asks it once, with the compiled
pipeline, and tells of its failure or answers with one finished row for each of its rows.

Main statement: `Config.runBetween_recording`.
-/

namespace ReportQuery

/-! ## Rows -/

namespace PostProcess

theorem isEmpty_iff {p : PostProcess} :
    p.isEmpty = true ↔ p.calculations = [] ∧ p.formatting = [] := by
  simp [isEmpty]

theorem finishRow_of_isEmpty {p : PostProcess} (h : p.isEmpty = true) (row : Document) :
    p.finishRow row = row := by
  obtain ⟨hcalculations, hformatting⟩ := isEmpty_iff.1 h
  unfold finishRow calculate format
  rw [hcalculations, hformatting, List.foldl_nil, List.foldl_nil]

-- The rows that are passed over when nothing is asked for would come out as they are.
theorem finish_eq_map (p : PostProcess) (rows : List Document) :
    p.finish rows = rows.map p.finishRow := by
  unfold finish
  split
  · next hempty =>
    have hid : p.finishRow = id := funext (finishRow_of_isEmpty hempty)
    rw [hid, List.map_id]
  · rfl

end PostProcess

namespace Config

theorem finishRows_of_some {c : Config} {spec : PostProcess} (h : c.postProcess = some spec)
    (rows : List Document) : c.finishRows rows = rows.map spec.finishRow := by
  have hfinish : c.finishRows rows = if spec.isEmpty then rows else spec.finish rows := by
    rw [finishRows, h]
  rw [hfinish]
  split
  · next hempty => rw [← spec.finish_eq_map, PostProcess.finish, if_pos hempty]
  · exact spec.finish_eq_map rows

theorem finishRows_of_isEmpty {c : Config}
    (h : ∀ spec, c.postProcess = some spec → spec.isEmpty = true) (rows : List Document) :
    c.finishRows rows = rows := by
  unfold finishRows
  split
  · next spec hspec => rw [if_pos (h spec hspec)]
  · rfl

theorem length_finishRows (c : Config) (rows : List Document) :
    (c.finishRows rows).length = rows.length := by
  cases h : c.postProcess with
  | none => rw [finishRows, h]
  | some spec => rw [finishRows_of_some h, List.length_map]

end Config

/-! ## Runs -/

/-- What a response to rows of the store says: each row finished in its place, their number, and what
was asked for. -/
structure Response.Reports (config : Config) (asked : Document) (time : Instant)
    (rows : List Document) (r : Response) : Prop where
  length : r.rows.length = rows.length
  finished : ∀ spec, config.postProcess = some spec → ∀ (index : Nat) row, rows[index]? = some row →
    r.rows[index]? = some (spec.finishRow row)
  untouched : (∀ spec, config.postProcess = some spec → spec.isEmpty = true) → r.rows = rows
  name : r.config = config.name
  time : r.time = time
  filters : r.filters = asked
  count : Entries.get? "count" r.summary = some (Json.ofInt rows.length)
  filtersShown : Entries.get? "filters" r.summary = some (.object asked)

namespace Config

variable {discriminators : List String} {start finish : Instant} {config : Config} {filters : Document}

theorem conclude_of_rows (rows : List Document) (stages : List Stage) :
    ∃ response, config.conclude filters stages finish (.ok rows) = .ok response ∧
      response.Reports config filters finish rows := by
  refine ⟨_, rfl, config.length_finishRows rows, ?_, ?_, rfl, rfl, rfl, ?_, rfl⟩
  · intro spec hspec index row hrow
    simp only [finishRows_of_some hspec, List.getElem?_map, hrow, Option.map_some]
  · intro hempty
    exact finishRows_of_isEmpty hempty rows
  · have hcount : ((config.finishRows rows).length : Int) = rows.length := by
      rw [config.length_finishRows]
    simp only [Response.summary, Entries.get?, hcount]
    rfl

theorem runBetween_of_compile {stages : List Stage}
    (h : Pipeline.compile discriminators start config filters = .ok stages)
    (answer : StoreCall → StoreAnswer) (calls : List StoreCall) :
    (config.runBetween discriminators start finish (.recording answer) filters).run calls =
      (config.conclude filters stages finish (answer ⟨config.collection, stages⟩),
        calls ++ [⟨config.collection, stages⟩]) := by
  unfold runBetween
  rw [h]
  rfl

theorem runBetween_of_fault {reason : ConfigError}
    (h : Pipeline.compile discriminators start config filters = .error reason)
    (answer : StoreCall → StoreAnswer) (calls : List StoreCall) :
    (config.runBetween discriminators start finish (.recording answer) filters).run calls =
      (.error (.configuration reason), calls) := by
  unfold runBetween
  rw [h]
  rfl

/-- The store is asked once or, for a report that cannot be compiled, not at all. -/
theorem runBetween_recording (discriminators : List String) (start finish : Instant)
    (config : Config) (filters : Document) (answer : StoreCall → StoreAnswer)
    (calls : List StoreCall) :
    (∀ reason, Pipeline.compile discriminators start config filters = .error reason →
      (config.runBetween discriminators start finish (.recording answer) filters).run calls =
        (.error (.configuration reason), calls)) ∧
    (∀ stages, Pipeline.compile discriminators start config filters = .ok stages →
      ∃ result, (config.runBetween discriminators start finish (.recording answer) filters).run calls =
          (result, calls ++ [⟨config.collection, stages⟩]) ∧
        (∀ reason, answer ⟨config.collection, stages⟩ = .error reason →
          result = .error (.store config.name stages reason)) ∧
        ∀ rows, answer ⟨config.collection, stages⟩ = .ok rows →
          ∃ response, result = .ok response ∧ response.Reports config filters finish rows) := by
  constructor
  · intro reason h
    exact runBetween_of_fault h answer calls
  · intro stages h
    refine ⟨_, runBetween_of_compile h answer calls, ?_, ?_⟩
    · intro reason hfailed
      rw [hfailed]
      rfl
    · intro rows hrows
      rw [hrows]
      exact conclude_of_rows rows stages

/-- Order lines with their totals. -/
def lineTotals : Config where
  name := "line-totals"
  collection := "documents"
  baseFilter := [("documentType", .string "order")]
  postProcess := some { calculations := [("total",
    { expression := some (.object [("$multiply", .array [.string "$qty", .string "$price"])]) })] }

/-- Lines as the store has them: a whole one, an empty one, and one whose quantity is no number. -/
def orderLines : List Document :=
  [[("qty", .ofInt 2), ("price", .ofInt 3)], [], [("qty", .string "two")]]

theorem runBetween_recording_of_lineTotals :
    (∃ stages response,
      (lineTotals.runBetween Pipeline.defaultDiscriminators .epoch (.endOf Instant.epoch.date)
        (.recording fun _ => .ok orderLines) [("status", .string "open")]).run [] =
          (.ok response, [⟨"documents", stages⟩]) ∧
      response.Reports lineTotals [("status", .string "open")] (.endOf Instant.epoch.date)
        orderLines ∧
      response.rows = [[("qty", .ofInt 2), ("price", .ofInt 3), ("total", .ofInt 6)],
        [("total", .ofInt 0)], [("qty", .string "two"), ("total", .null)]]) ∧
    (Config.runBetween Pipeline.defaultDiscriminators .epoch .epoch (.recording fun _ => .ok [])
      { name := "unscoped" } []).run [] =
        (.error (.configuration
          (.missingDiscriminator "unscoped" Pipeline.defaultDiscriminators)), []) := by
  constructor
  · obtain ⟨-, hok⟩ := runBetween_recording Pipeline.defaultDiscriminators .epoch
      (.endOf Instant.epoch.date) lineTotals [("status", .string "open")]
      (fun _ => .ok orderLines) []
    have hcompile : Pipeline.compile Pipeline.defaultDiscriminators .epoch lineTotals
        [("status", .string "open")] =
          .ok [.filter [("documentType", .string "order"), ("status", .string "open")]] := by rfl
    obtain ⟨_, hrun, -, hrows⟩ := hok _ hcompile
    obtain ⟨response, rfl, hreports⟩ := hrows _ rfl
    refine ⟨_, response, hrun, hreports, List.ext_getElem? fun index => ?_⟩
    match index with
    | 0 => exact (hreports.finished _ rfl 0 _ rfl).trans (by decide +kernel)
    | 1 => exact (hreports.finished _ rfl 1 _ rfl).trans (by decide +kernel)
    | 2 => exact (hreports.finished _ rfl 2 _ rfl).trans (by decide +kernel)
    | index + 3 =>
      refine List.getElem?_eq_none (Nat.le_trans (Nat.le_of_eq hreports.length) ?_)
      exact Nat.le_add_left 3 index
  · obtain ⟨hfault, -⟩ := runBetween_recording Pipeline.defaultDiscriminators .epoch .epoch
      { name := "unscoped" } [] (fun _ => .ok []) []
    exact hfault _ (by rfl)

end Config

end ReportQuery
