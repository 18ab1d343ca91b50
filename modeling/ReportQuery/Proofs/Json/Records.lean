import ReportQuery.Proofs.Json.Reloading

/-!
# Loading records that were written

A record is written as some of its fields in their order, and loaded from them in that order. What
each field of a record gives, a loaded record has, however its source listed the fields.

Main statements: `Shape.decode_of_loads`, `Shape.gives`, `Shape.required_mem_keys`.
-/

namespace ReportQuery.Json

variable {α β : Type} {shape : Shape α} {field : Field α} {fields : List (Field α)} {doc : Document}
  {record record' x : α} {seen : List String} {P : α → Prop}

/-! ## Written fields -/

/-- The document holds some of the fields in their order, and loading them turns the record into
`x`. -/
inductive Loads : List (Field α) → α → Document → α → Prop
  | done {x : α} : Loads [] x [] x
  | present {field : Field α} {fields : List (Field α)} {record record' x : α} {v : Json}
    {doc : Document} (h : field.load (.ofJson v) record = .ok record')
    (rest : Loads fields record' doc x) : Loads (field :: fields) record ((field.name, v) :: doc) x
  | absent {field : Field α} {fields : List (Field α)} {record x : α} {doc : Document}
    (rest : Loads fields record doc x) : Loads (field :: fields) record doc x

namespace Loads

variable {name : String} {decode : Decoder β} {encode : β → Json}

theorem of {set : α → β → α} {b : β} (h : decode.Reloads encode b)
    (rest : Loads fields (set record b) doc x) :
    Loads (.of name decode set :: fields) record ((name, encode b) :: doc) x := by
  have hload : (Field.of name decode set).load (.ofJson (encode b)) record = .ok (set record b) :=
    map_eq_ok_iff.2 ⟨b, h, rfl⟩
  exact .present hload rest

theorem optional {set : α → Option β → α} {b? : Option β}
    (h : (Decoder.optional decode).Reloads (Decoder.orNull encode) b?)
    (hset : set record none = record) (rest : Loads fields (set record b?) doc x) :
    Loads (.of name (.optional decode) set :: fields) record (field? name encode b? ++ doc) x := by
  cases b? with
  | none =>
    rw [hset] at rest
    exact .absent rest
  | some b => exact .of h rest

theorem list {set : α → List β → α} {bs : List β}
    (h : (Decoder.items decode).Reloads (fun bs => .array (bs.map encode)) bs)
    (hset : set record [] = record) (rest : Loads fields (set record bs) doc x) :
    Loads (.of name (.items decode) set :: fields) record
      (fieldOfList name encode bs ++ doc) x := by
  cases bs with
  | nil =>
    rw [hset] at rest
    exact .absent rest
  | cons b bs => exact .of h rest

end Loads

namespace Shape

theorem find?_name_eq (hnames : (fields.map (·.name)).Nodup) (h : field ∈ fields) :
    fields.find? (fun other => other.name = field.name) = some field := by
  induction fields with
  | nil => cases h
  | cons first rest ih =>
    rw [List.map_cons, List.nodup_cons] at hnames
    rcases List.mem_cons.1 h with rfl | hrest
    · rw [List.find?_cons_of_pos (by simp)]
    · have hne : first.name ≠ field.name :=
        fun heq => hnames.1 (heq ▸ List.mem_map_of_mem hrest)
      rw [List.find?_cons_of_neg (by simp [hne])]
      exact ih hnames.2 hrest

theorem loadFields_of_loads (hnames : (shape.fields.map (·.name)).Nodup)
    (h : Loads fields record doc x) (hfields : fields.Sublist shape.fields)
    (hseen : ∀ field ∈ fields, field.name ∉ seen) :
    shape.loadFields seen record (Source.ofFields doc) =
      .ok ((Entries.keys doc).reverse ++ seen, x) := by
  induction h generalizing seen with
  | done => rfl
  | @present field fields record record' x v doc hload _ ih =>
    have hnames' := hnames.sublist (hfields.map _)
    rw [List.map_cons, List.nodup_cons] at hnames'
    obtain ⟨hnew, hlater⟩ := List.forall_mem_cons.1 hseen
    have hseen' : ∀ other ∈ fields, other.name ∉ field.name :: seen := by
      intro other hother
      rw [List.mem_cons, not_or]
      exact ⟨fun heq => hnames'.1 (heq ▸ List.mem_map_of_mem hother), hlater other hother⟩
    have hrest := ih ((List.sublist_cons_self _ _).trans hfields) hseen'
    rw [Source.ofFields, loadFields,
      find?_name_eq hnames (hfields.subset List.mem_cons_self)]
    simp only [if_neg hnew, hload, bind, Except.bind, hrest]
    simp [Entries.keys_cons]
  | absent _ ih =>
    exact ih ((List.sublist_cons_self _ _).trans hfields) (List.forall_mem_cons.1 hseen).2

theorem missing?_eq_none_iff :
    shape.missing? seen = none ↔ ∀ name ∈ shape.required, name ∈ seen := by
  simp [missing?]

theorem decode_of_loads (origin : Origin) (hnames : (shape.fields.map (·.name)).Nodup)
    (h : Loads shape.fields shape.initial doc x)
    (hrequired : ∀ name ∈ shape.required, name ∈ Entries.keys doc) :
    shape.decode origin (.ofJson (.object doc)) = .ok x := by
  have hload := loadFields_of_loads hnames h (List.Sublist.refl _)
    (fun _ _ => List.not_mem_nil)
  rw [List.append_nil] at hload
  have hmissing : shape.missing? (Entries.keys doc).reverse = none :=
    missing?_eq_none_iff.2 fun name hname => List.mem_reverse.2 (hrequired name hname)
  rw [Source.ofJson, decode, ofFields, hload]
  simp only [bind, Except.bind, Source.use, mapError_ok, hmissing]
  rfl

/-! ## Loaded records -/

theorem loadFields_cons {key : String} {v : Json} {seen' : List String}
    (h : shape.loadFields seen record (Source.ofFields ((key, v) :: doc)) = .ok (seen', x)) :
    shape.loadFields seen record (Source.ofFields doc) = .ok (seen', x) ∨
      ∃ field ∈ shape.fields, ∃ record', field.load (.ofJson v) record = .ok record' ∧
        shape.loadFields (key :: seen) record' (Source.ofFields doc) = .ok (seen', x) := by
  rw [Source.ofFields, loadFields] at h
  split at h
  · obtain ⟨_, -, h⟩ := bind_eq_ok_iff.1 h
    exact .inl h
  · next field hfield =>
    split at h
    · cases h
    · obtain ⟨record', hload, h⟩ := bind_eq_ok_iff.1 h
      exact .inr ⟨field, List.mem_of_find?_eq_some hfield, record', hload, h⟩

theorem mem_of_loadFields {seen' : List String}
    (h : shape.loadFields seen record (Source.ofFields doc) = .ok (seen', x)) :
    ∀ name ∈ seen', name ∈ seen ∨ name ∈ Entries.keys doc := by
  induction doc generalizing seen record with
  | nil =>
    cases h
    exact fun _ hname => .inl hname
  | cons entry doc ih =>
    obtain ⟨key, v⟩ := entry
    intro name hname
    rw [Entries.keys_cons, List.mem_cons]
    rcases loadFields_cons h with h | ⟨field, -, record', -, h⟩
    · exact (ih h name hname).imp_right .inr
    · rcases ih h name hname with hseen | hdoc
      · exact (List.mem_cons.1 hseen).symm.imp_right .inl
      · exact .inr (.inr hdoc)

theorem exists_loadFields_of_ofFields {fields : List (SourceKey × Source)} {stop : Option Stop}
    (h : shape.ofFields fields stop = .ok x) :
    ∃ seen, shape.loadFields [] shape.initial fields = .ok (seen, x) ∧
      shape.missing? seen = none := by
  rw [ofFields] at h
  obtain ⟨⟨seen, record⟩, hload, h⟩ := bind_eq_ok_iff.1 h
  obtain ⟨_, -, h⟩ := bind_eq_ok_iff.1 h
  split at h
  · cases h
  · next hmissing =>
    cases h
    exact ⟨seen, hload, hmissing⟩

theorem required_mem_keys {origin : Origin}
    (h : shape.decode origin (.ofJson (.object doc)) = .ok x) :
    ∀ name ∈ shape.required, name ∈ Entries.keys doc := by
  rw [Source.ofJson, decode] at h
  obtain ⟨seen, hload, hmissing⟩ := exists_loadFields_of_ofFields h
  intro name hname
  have hseen := missing?_eq_none_iff.1 hmissing name hname
  exact (mem_of_loadFields hload name hseen).resolve_left List.not_mem_nil

theorem map_decode_ne_ok {name : String} {f : α → β} {y : β} (origin : Origin)
    (hname : name ∈ shape.required) (hdoc : name ∉ Entries.keys doc) :
    (shape.decode origin (.ofJson (.object doc))).map f ≠ .ok y := by
  intro h
  obtain ⟨x, hx, -⟩ := map_eq_ok_iff.1 h
  exact hdoc (required_mem_keys hx name hname)

end Shape

/-- Loading the field keeps the property. -/
def Field.Keeps (field : Field α) (P : α → Prop) : Prop :=
  ∀ v record record', v.Distinct → P record →
    field.load (.ofJson v) record = .ok record' → P record'

theorem Field.keeps_of {name : String} {decode : Decoder β} {set : α → β → α} {Q : β → Prop}
    (hdecode : decode.Gives Q) (hset : ∀ record b, P record → Q b → P (set record b)) :
    (Field.of name decode set).Keeps P := by
  intro v record record' hv hrecord h
  obtain ⟨b, hb, rfl⟩ := map_eq_ok_iff.1 h
  exact hset record b hrecord (hdecode v b hv hb)

namespace Shape

theorem loadFields_keeps (hfields : ∀ field ∈ shape.fields, field.Keeps P)
    (hdoc : DistinctFields doc) (hrecord : P record) {seen' : List String}
    (h : shape.loadFields seen record (Source.ofFields doc) = .ok (seen', x)) : P x := by
  induction doc generalizing seen record with
  | nil =>
    cases h
    exact hrecord
  | cons entry doc ih =>
    obtain ⟨key, v⟩ := entry
    rw [DistinctFields] at hdoc
    rcases loadFields_cons h with h | ⟨field, hfield, record', hload, h⟩
    · exact ih hdoc.2 hrecord h
    · exact ih hdoc.2 (hfields field hfield v record record' hdoc.1 hrecord hload) h

theorem loadItems_keeps (hfields : ∀ field ∈ fields, field.Keeps P) {items : List Json}
    (hitems : DistinctItems items) (hrecord : P record) {extra : List Source}
    (h : loadItems fields record (Source.ofItems items) = .ok (x, extra)) : P x := by
  induction fields generalizing record items with
  | nil =>
    cases h
    exact hrecord
  | cons field fields ih =>
    cases items with
    | nil =>
      cases h
      exact hrecord
    | cons v items =>
      rw [DistinctItems] at hitems
      obtain ⟨hfield, hrest⟩ := List.forall_mem_cons.1 hfields
      rw [Source.ofItems, loadItems] at h
      obtain ⟨record', hload, h⟩ := bind_eq_ok_iff.1 h
      exact ih hrest hitems.2 (hfield v record record' hitems.1 hrecord hload) h

theorem exists_loadItems_of_ofItems {origin : Origin} {items : List Source} {stop : Option Stop}
    (h : shape.ofItems origin items stop = .ok x) :
    ∃ extra, loadItems shape.fields shape.initial items = .ok (x, extra) := by
  rw [ofItems] at h
  obtain ⟨⟨record, extra⟩, hload, h⟩ := bind_eq_ok_iff.1 h
  refine ⟨extra, ?_⟩
  dsimp only at h
  -- An array that is too short may be cut off, too; then the same checks follow.
  split at h
  · obtain ⟨_, -, h⟩ := bind_eq_ok_iff.1 h
    split at h
    · cases h
    · obtain ⟨_, -, h⟩ := bind_eq_ok_iff.1 h
      cases h
      exact hload
  · split at h
    · cases h
    · obtain ⟨_, -, h⟩ := bind_eq_ok_iff.1 h
      cases h
      exact hload

theorem gives (origin : Origin) (hinitial : P shape.initial)
    (hfields : ∀ field ∈ shape.fields, field.Keeps P) : (shape.decode origin).Gives P := by
  intro v x hv h
  match v with
  | .object doc =>
    rw [Distinct] at hv
    rw [Source.ofJson, decode] at h
    obtain ⟨seen, hload, -⟩ := exists_loadFields_of_ofFields h
    exact loadFields_keeps hfields hv.2 hinitial hload
  | .array items =>
    rw [Distinct] at hv
    rw [Source.ofJson, decode] at h
    obtain ⟨extra, hload⟩ := exists_loadItems_of_ofItems h
    exact loadItems_keeps hfields hv hinitial hload
  | .null | .bool _ | .number _ | .string _ => cases h

end Shape

end ReportQuery.Json
