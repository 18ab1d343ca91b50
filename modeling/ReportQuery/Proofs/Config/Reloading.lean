import ReportQuery.Proofs.Json.Records

/-!
# Loading written configurations

A configuration that was loaded from a value is written as a value that loads as the same
configuration: no form of a lookup or an accumulator takes what another one has written.

Main statement: `Config.ofJson_toJson`.
-/

namespace ReportQuery

open Json (Decoder Field Shape Origin Loads)
open Json.Decoder

/-! ## Records of texts -/

theorem Unwind.reloads (origin : Origin) (u : Unwind) : (decode origin).Reloads toJson u := by
  have h : Loads shape.fields shape.initial _ u :=
    .of (reloads_text u.path) (.optional (reloads_optional reloads_bool nofun _) rfl .done)
  have hload := Shape.decode_of_loads origin (by decide) h (by simp [shape, Entries.keys])
  rwa [List.append_nil] at hload

theorem FormatKind.reloads (kind : FormatKind) :
    (decode .value).Reloads (fun kind => .string kind.name) kind := by
  cases kind <;> rfl

theorem Format.reloads (f : Format) : (decode .value).Reloads toJson f := by
  have htext : ∀ x?, (optional text).Reloads (orNull .string) x? :=
    reloads_optional reloads_text nofun
  have h : Loads (shape .value).fields (shape .value).initial _ f :=
    .of f.kind.reloads (.optional (htext f.locale) rfl (.optional (htext f.currency) rfl
      (.optional (reloads_optional reloads_uint32 nofun f.decimals) rfl .done)))
  have hload := Shape.decode_of_loads .value (by decide) h (by simp [shape, Entries.keys])
  rwa [List.append_nil, ← List.append_assoc] at hload

theorem EqualityLookup.reloads (l : EqualityLookup) :
    (Lookup.equalityShape.decode .value).Reloads (fun l => Lookup.toJson (.equality l)) l := by
  have h : Loads Lookup.equalityShape.fields Lookup.equalityShape.initial _ l :=
    .of (reloads_text l.collection) (.of (reloads_text l.output) (.of (reloads_text l.localField)
      (.of (reloads_text l.foreignField) (.of (reloads_bool l.unwind) .done))))
  exact Shape.decode_of_loads .value (by decide) h (by simp [Lookup.equalityShape, Entries.keys])

theorem IncompleteLookup.reloads (l : IncompleteLookup) :
    (Lookup.incompleteShape.decode .value).Reloads (fun l => Lookup.toJson (.incomplete l)) l := by
  have h : Loads Lookup.incompleteShape.fields Lookup.incompleteShape.initial _ l :=
    .of (reloads_text l.collection) (.of (reloads_text l.output) .done)
  exact Shape.decode_of_loads .value (by decide) h (by simp [Lookup.incompleteShape])

/-! ## Lookups -/

/-- Every part of the lookup reloads. -/
structure CorrelatedLookup.Settled (l : CorrelatedLookup) : Prop where
  collection : text.Reloads .string l.collection
  output : text.Reloads .string l.output
  bindings : document.Reloads .object l.bindings
  pipeline : (items value).Reloads .array l.pipeline
  unwind : bool.Reloads .bool l.unwind

theorem CorrelatedLookup.settled : (Lookup.correlatedShape.decode .value).Gives Settled := by
  have htext := gives_of_reloads reloads_text
  refine Shape.gives .value ⟨rfl, rfl, rfl, rfl, rfl⟩ ?_
  simp only [Lookup.correlatedShape, List.forall_mem_cons]
  refine ⟨?_, ?_, ?_, ?_, ?_, List.forall_mem_nil _⟩
  · exact Field.keeps_of htext fun _ _ h hpart => { h with collection := hpart }
  · exact Field.keeps_of htext fun _ _ h hpart => { h with output := hpart }
  · exact Field.keeps_of gives_document fun _ _ h hpart => { h with bindings := hpart }
  · exact Field.keeps_of gives_values fun _ _ h hpart => { h with pipeline := hpart }
  · exact Field.keeps_of (gives_of_reloads reloads_bool) fun _ _ h hpart =>
      { h with unwind := hpart }

theorem CorrelatedLookup.Settled.reloads {l : CorrelatedLookup} (hl : l.Settled) :
    (Lookup.correlatedShape.decode .value).Reloads (fun l => Lookup.toJson (.correlated l)) l := by
  have h : Loads Lookup.correlatedShape.fields Lookup.correlatedShape.initial _ l :=
    .of hl.collection (.of hl.output (.of hl.bindings (.of hl.pipeline (.of hl.unwind .done))))
  exact Shape.decode_of_loads .value (by decide) h (by simp [Lookup.correlatedShape, Entries.keys])

theorem Lookup.not_correlated {doc : Document} (h : "pipeline" ∉ Entries.keys doc)
    (lookup : Lookup) :
    (correlatedShape.decode .value (.ofJson (.object doc))).map correlated ≠ .ok lookup :=
  Shape.map_decode_ne_ok .value (show "pipeline" ∈ correlatedShape.required by decide) h

theorem Lookup.not_equality {doc : Document} (h : "localField" ∉ Entries.keys doc)
    (lookup : Lookup) :
    (equalityShape.decode .value (.ofJson (.object doc))).map equality ≠ .ok lookup :=
  Shape.map_decode_ne_ok .value (show "localField" ∈ equalityShape.required by decide) h

theorem Lookup.gives : decode.Gives (decode.Reloads toJson) := by
  intro v lookup hv h
  rw [decode] at h
  rw [Reloads, decode]
  rcases firstOf_cons.1 h with hload | ⟨-, h⟩
  · obtain ⟨l, hl, rfl⟩ := Json.map_eq_ok_iff.1 hload
    have hreload := (CorrelatedLookup.settled v l hv hl).reloads.map Lookup.correlated
    exact firstOf_cons.2 (.inl hreload)
  rcases firstOf_cons.1 h with hload | ⟨-, h⟩
  · obtain ⟨l, -, rfl⟩ := Json.map_eq_ok_iff.1 hload
    have hreload := l.reloads.map Lookup.equality
    exact firstOf_cons.2 (.inr ⟨not_correlated (by simp [Entries.keys]),
      firstOf_cons.2 (.inl hreload)⟩)
  rcases firstOf_cons.1 h with hload | ⟨-, h⟩
  · obtain ⟨l, -, rfl⟩ := Json.map_eq_ok_iff.1 hload
    have hreload := l.reloads.map Lookup.incomplete
    exact firstOf_cons.2 (.inr ⟨not_correlated (by simp [Entries.keys]),
      firstOf_cons.2 (.inr ⟨not_equality (by simp [Entries.keys]), firstOf_cons.2 (.inl hreload)⟩)⟩)
  · exact absurd h firstOf_nil

/-! ## Accumulators -/

namespace Accumulator

theorem operatorShape_gives :
    (operatorShape.decode .value).Gives fun a => value.Reloads id a.2 := by
  refine Shape.gives .value rfl ?_
  simp only [operatorShape, List.forall_mem_cons]
  refine ⟨?_, ?_, List.forall_mem_nil _⟩
  · exact Field.keeps_of (gives_of_reloads reloads_text) fun _ _ h _ => h
  · exact Field.keeps_of gives_value fun _ _ _ h => h

theorem expressionShape_gives : (expressionShape.decode .value).Gives (value.Reloads id) := by
  refine Shape.gives .value rfl ?_
  simp only [expressionShape, List.forall_mem_cons]
  exact ⟨Field.keeps_of gives_value fun _ _ _ h => h, List.forall_mem_nil _⟩

theorem operator_reloads (name : String) {operand : Json} (hoperand : value.Reloads id operand) :
    (operatorShape.decode .value).Reloads (fun a => toJson (.operator a.1 a.2))
      (name, operand) := by
  have h : Loads operatorShape.fields operatorShape.initial _ (name, operand) :=
    .of (reloads_text name) (.of hoperand .done)
  exact Shape.decode_of_loads .value (by decide) h (by simp [operatorShape, Entries.keys])

theorem expression_reloads {e : Json} (he : value.Reloads id e) :
    (expressionShape.decode .value).Reloads (fun e => toJson (.expression e)) e := by
  have h : Loads expressionShape.fields expressionShape.initial _ e := .of he .done
  exact Shape.decode_of_loads .value (by decide) h (by simp [expressionShape, Entries.keys])

theorem decode_of_ofObject {α : Type} {shape : Shape α} {v : Json} {x : α}
    (h : ofObject shape (.ofJson v) = .ok x) : shape.decode .value (.ofJson v) = .ok x := by
  cases v with
  | object _ => exact h
  | null | bool _ | number _ | string _ | array _ => cases h

theorem expression_not_operator (e : Json) (a : Accumulator) :
    (ofObject operatorShape (.ofJson (toJson (.expression e)))).map
      (fun (name, operand) => operator name operand) ≠ .ok a :=
  Shape.map_decode_ne_ok .value (show "operator" ∈ operatorShape.required by decide)
    (by simp [Entries.keys])

theorem reloads_named (name : String) : decode.Reloads toJson (named name) := by
  rw [Reloads, decode]
  exact firstOf_cons.2 (.inl rfl)

theorem reloads_operator (name : String) {operand : Json} (h : value.Reloads id operand) :
    decode.Reloads toJson (operator name operand) := by
  have hreload := (operator_reloads name h).map fun (a : String × Json) => operator a.1 a.2
  rw [Reloads, decode]
  exact firstOf_cons.2 (.inr ⟨fun _ h => (by cases h), firstOf_cons.2 (.inl hreload)⟩)

theorem reloads_expression {e : Json} (h : value.Reloads id e) :
    decode.Reloads toJson (expression e) := by
  have hreload := (expression_reloads h).map expression
  rw [Reloads, decode]
  exact firstOf_cons.2 (.inr ⟨fun _ h => (by cases h), firstOf_cons.2 (.inr ⟨expression_not_operator e,
    firstOf_cons.2 (.inl hreload)⟩)⟩)

theorem gives : decode.Gives (decode.Reloads toJson) := by
  intro v a hv hload
  have h := hload
  rw [decode] at h
  rcases firstOf_cons.1 h with hform | ⟨-, h⟩
  · obtain ⟨name, -, rfl⟩ := Json.map_eq_ok_iff.1 hform
    exact reloads_named name
  rcases firstOf_cons.1 h with hform | ⟨-, h⟩
  · obtain ⟨⟨name, operand⟩, ha, rfl⟩ := Json.map_eq_ok_iff.1 hform
    exact reloads_operator name (operatorShape_gives v _ hv (decode_of_ofObject ha))
  rcases firstOf_cons.1 h with hform | ⟨-, h⟩
  · obtain ⟨e, he, rfl⟩ := Json.map_eq_ok_iff.1 hform
    exact reloads_expression (expressionShape_gives v e hv (decode_of_ofObject he))
  rcases firstOf_cons.1 h with hform | ⟨-, h⟩
  · obtain ⟨fields, hfields, rfl⟩ := Json.map_eq_ok_iff.1 hform
    -- A document that is none of the other forms is written as it was, and is none of them again.
    rwa [Reloads, toJson, ← eq_object_of_document hv hfields]
  · exact absurd h firstOf_nil

end Accumulator

/-! ## Parts with values in them -/

/-- The parts of the grouping reload. -/
structure Grouping.Settled (g : Grouping) : Prop where
  id : value.Reloads (fun v => v) g.id
  fields : (entries Accumulator.decode).Reloads (Json.ofEntries Accumulator.toJson) g.fields

theorem Grouping.settled : (decode .value).Gives Settled := by
  refine Shape.gives .value ⟨rfl, rfl⟩ ?_
  simp only [shape, List.forall_mem_cons]
  refine ⟨?_, ?_, List.forall_mem_nil _⟩
  · exact Field.keeps_of gives_value fun _ _ h hid => { h with id := hid }
  · exact Field.keeps_of (gives_entries Accumulator.gives) fun _ _ h hfields =>
      { h with fields := hfields }

theorem Grouping.gives : (decode .value).Gives ((decode .value).Reloads toJson) := by
  intro v g hv hg
  have hsettled := settled v g hv hg
  have h : Loads shape.fields shape.initial _ g := .of hsettled.id (.of hsettled.fields .done)
  exact Shape.decode_of_loads .value (by decide) h nofun

theorem Calculation.settled :
    (decode .value).Gives fun c => (optional value).Reloads (orNull id) c.expression := by
  refine Shape.gives .value rfl ?_
  simp only [shape, List.forall_mem_cons]
  refine ⟨?_, ?_, List.forall_mem_nil _⟩
  · exact Field.keeps_of (gives_of_reloads (reloads_optional reloads_text nofun)) fun _ _ h _ => h
  · exact Field.keeps_of gives_optional_value fun _ _ _ h => h

theorem Calculation.gives : (decode .value).Gives ((decode .value).Reloads toJson) := by
  intro v c hv hc
  have h : Loads shape.fields shape.initial _ c :=
    .optional (reloads_optional reloads_text nofun c.formula) rfl
      (.optional (settled v c hv hc) rfl .done)
  have hload := Shape.decode_of_loads .value (by decide) h nofun
  rwa [List.append_nil] at hload

structure PostProcess.Settled (p : PostProcess) : Prop where
  calculations : (entries (Calculation.decode .value)).Reloads
    (Json.ofEntries Calculation.toJson) p.calculations
  formatting : (entries (Format.decode .value)).Reloads (Json.ofEntries Format.toJson) p.formatting

theorem PostProcess.settled : (decode .value).Gives Settled := by
  refine Shape.gives .value ⟨rfl, rfl⟩ ?_
  simp only [shape, List.forall_mem_cons]
  refine ⟨?_, ?_, List.forall_mem_nil _⟩
  · exact Field.keeps_of (gives_entries Calculation.gives) fun _ _ h hc =>
      { h with calculations := hc }
  · exact Field.keeps_of (gives_entries (gives_of_reloads Format.reloads)) fun _ _ h hf =>
      { h with formatting := hf }

theorem PostProcess.gives : (decode .value).Gives ((decode .value).Reloads toJson) := by
  intro v p hv hp
  have hsettled := settled v p hv hp
  have h : Loads (shape .value).fields (shape .value).initial _ p :=
    .of hsettled.calculations (.of hsettled.formatting .done)
  exact Shape.decode_of_loads .value (by decide) h nofun

/-! ## Configurations -/

namespace Config

/-- Every part of the configuration reloads. -/
structure Settled (c : Config) : Prop where
  name : text.Reloads .string c.name
  collection : text.Reloads .string c.collection
  baseFilter : document.Reloads .object c.baseFilter
  fieldMappings : (entries text).Reloads (Json.ofEntries .string) c.fieldMappings
  arrayFields : (items text).Reloads (fun xs => .array (xs.map .string)) c.arrayFields
  unwind : (optional (Unwind.decode .value)).Reloads (orNull Unwind.toJson) c.unwind
  lookups : (items Lookup.decode).Reloads (fun ls => .array (ls.map Lookup.toJson)) c.lookups
  groupBy : (optional (Grouping.decode .value)).Reloads (orNull Grouping.toJson) c.groupBy
  project : (optional value).Reloads (orNull id) c.project
  sort : (optional value).Reloads (orNull id) c.sort
  limit : (optional value).Reloads (orNull id) c.limit
  postProcess :
    (optional (PostProcess.decode .value)).Reloads (orNull PostProcess.toJson) c.postProcess
  pipeline : (optional (items value)).Reloads (orNull .array) c.pipeline
  postLookupFilter : (optional document).Reloads (orNull .object) c.postLookupFilter

theorem settled : (decode .value).Gives Settled := by
  have htext := gives_of_reloads reloads_text
  have hunwind := gives_of_reloads (Unwind.reloads .value)
  refine Shape.gives .value
    ⟨rfl, rfl, rfl, rfl, rfl, rfl, rfl, rfl, rfl, rfl, rfl, rfl, rfl, rfl⟩ ?_
  simp only [shape, List.forall_mem_cons]
  refine ⟨?_, ?_, ?_, ?_, ?_, ?_, ?_, ?_, ?_, ?_, ?_, ?_, ?_, ?_, List.forall_mem_nil _⟩
  · exact Field.keeps_of htext fun _ _ h hpart => { h with name := hpart }
  · exact Field.keeps_of htext fun _ _ h hpart => { h with collection := hpart }
  · exact Field.keeps_of gives_document fun _ _ h hpart => { h with baseFilter := hpart }
  · exact Field.keeps_of (gives_entries htext) fun _ _ h hpart => { h with fieldMappings := hpart }
  · exact Field.keeps_of (gives_items htext) fun _ _ h hpart => { h with arrayFields := hpart }
  · exact Field.keeps_of (gives_part hunwind nofun) fun _ _ h hpart => { h with unwind := hpart }
  · exact Field.keeps_of (gives_items Lookup.gives) fun _ _ h hpart => { h with lookups := hpart }
  · exact Field.keeps_of (gives_part Grouping.gives nofun) fun _ _ h hpart =>
      { h with groupBy := hpart }
  · exact Field.keeps_of gives_optional_value fun _ _ h hpart => { h with project := hpart }
  · exact Field.keeps_of gives_optional_value fun _ _ h hpart => { h with sort := hpart }
  · exact Field.keeps_of gives_optional_value fun _ _ h hpart => { h with limit := hpart }
  · exact Field.keeps_of (gives_part PostProcess.gives nofun) fun _ _ h hpart =>
      { h with postProcess := hpart }
  · exact Field.keeps_of (gives_part gives_values nofun) fun _ _ h hpart =>
      { h with pipeline := hpart }
  · exact Field.keeps_of (gives_part gives_document nofun) fun _ _ h hpart =>
      { h with postLookupFilter := hpart }

/-- A configuration that was loaded is written as a value that loads as the same configuration. -/
theorem ofJson_toJson {v : Json} {c : Config} (hv : v.Distinct) (h : ofJson v = .ok c) :
    ofJson c.toJson = .ok c := by
  have hc := settled v c hv h
  have hloads : Loads (shape .value).fields (shape .value).initial _ c :=
    .of hc.name (.of hc.collection (.of hc.baseFilter (.of hc.fieldMappings
      (.list hc.arrayFields rfl (.optional hc.unwind rfl (.list hc.lookups rfl
        (.optional hc.groupBy rfl (.optional hc.project rfl (.optional hc.sort rfl
          (.optional hc.limit rfl (.optional hc.postProcess rfl (.optional hc.pipeline rfl
            (.optional hc.postLookupFilter rfl .done)))))))))))))
  have hload := Shape.decode_of_loads .value (by decide) hloads nofun
  rw [List.append_nil] at hload
  rw [ofJson, decode, toJson]
  simpa only [List.append_assoc, List.cons_append, List.nil_append] using hload

theorem ofJson_toJson_of_lookups :
    let equality : Json := .object [("as", .string "item"), ("from", .string "items"),
      ("localField", .string "sku"), ("foreignField", .string "_id"), ("note", .null)]
    let correlated : Json := .array [.string "rates", .string "rate", .object [], .array []]
    let top : Document := [("operator", .null), ("field", .string "$price")]
    let v : Json := .object [("unwind", .null), ("lookups", .array [equality, correlated]),
      ("groupBy", .object [("fields", .object [("top", .object top)])])]
    let c : Config := {
      lookups := [
        .equality {
          collection := "items"
          output := "item"
          localField := "sku"
          foreignField := "_id" },
        .correlated { collection := "rates", output := "rate", pipeline := [] }]
      groupBy := some { fields := [("top", .raw top)] } }
    v.Distinct ∧ ofJson v = .ok c ∧ ofJson c.toJson = .ok c := by
  intro equality correlated top v c
  have hv : v.Distinct := by
    simp [v, equality, correlated, top, Json.Distinct, Json.DistinctFields, Json.DistinctItems,
      Entries.keys]
  have h : ofJson v = .ok c := by rfl
  exact ⟨hv, h, ofJson_toJson hv h⟩

end Config

end ReportQuery
