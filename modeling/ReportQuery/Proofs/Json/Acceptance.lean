import ReportQuery.Proofs.Entries
import ReportQuery.Proofs.Json.Records

/-!
# What a record is loaded from

A record is loaded from an object exactly when every field takes what the object has under its name
and the required fields are there. Other keys of the object make no difference.

Main statement: `Shape.accepts_object_iff`.
-/

namespace ReportQuery.Json

variable {α β : Type} {v : Json}

/-! ## Kinds of values -/

inductive Kind where
  | text
  | flag
  | list
  | object

def Kind.Fits (v : Json) : Kind → Prop
  | text => ∃ s, v = .string s
  | flag => ∃ b, v = .bool b
  | list => ∃ items, v = .array items
  | object => ∃ fields, v = .object fields

/-- What stands under the key, if anything does, is of the kind. -/
def MayHave (doc : Document) (key : String) (kind : Kind) : Prop :=
  ∀ v, Entries.get? key doc = some v → kind.Fits v

def Has (doc : Document) (key : String) (kind : Kind) : Prop :=
  ∃ v, Entries.get? key doc = some v ∧ kind.Fits v

theorem has_iff {doc : Document} {key : String} {kind : Kind} :
    Has doc key kind ↔ MayHave doc key kind ∧ key ∈ Entries.keys doc := by
  rw [Entries.mem_keys_iff]
  constructor
  · rintro ⟨v, hv, hfits⟩
    refine ⟨?_, v, hv⟩
    intro w hw
    rw [hv, Option.some.injEq] at hw
    exact hw ▸ hfits
  · rintro ⟨hfits, v, hv⟩
    exact ⟨v, hv, hfits v hv⟩

/-! ## Values that are passed over -/

mutual

theorem skip_ofJson : (v : Json) → (Source.ofJson v).skip = .ok ()
  | .null | .bool _ | .number _ | .string _ => rfl
  | .array items => by
    rw [Source.ofJson, Source.skip, skip_ofItems items]
    rfl
  | .object fields => by
    rw [Source.ofJson, Source.skip, skip_ofFields fields]
    rfl

theorem skip_ofItems : (items : List Json) → Source.skipItems (Source.ofItems items) = .ok ()
  | [] => rfl
  | item :: rest => by
    rw [Source.ofItems, Source.skipItems, skip_ofJson item]
    exact skip_ofItems rest

theorem skip_ofFields : (fields : Document) → Source.skipFields (Source.ofFields fields) = .ok ()
  | [] => rfl
  | (_, value) :: rest => by
    rw [Source.ofFields, Source.skipFields, skip_ofJson value]
    exact skip_ofFields rest

end

/-! ## Plain decoders -/

namespace Decoder

/-- Something is loaded from the value. -/
def Accepts (decode : Decoder α) (v : Json) : Prop := ∃ x, decode (.ofJson v) = .ok x

theorem accepts_text_iff : text.Accepts v ↔ Kind.text.Fits v := by
  cases v <;> simp [Accepts, Source.ofJson, text, Kind.Fits]

theorem accepts_bool_iff : bool.Accepts v ↔ Kind.flag.Fits v := by
  cases v <;> simp [Accepts, Source.ofJson, bool, Kind.Fits]

theorem accepts_value (v : Json) : value.Accepts v := by
  obtain ⟨w, hw⟩ := exists_toJson_ofJson v
  refine ⟨w, ?_⟩
  rw [value, hw, mapError_ok]

theorem exists_eachItem {decode : Decoder α} {vs : List Json} (h : ∀ v ∈ vs, decode.Accepts v) :
    ∃ xs, eachItem decode (Source.ofItems vs) = .ok xs := by
  induction vs with
  | nil => exact ⟨[], rfl⟩
  | cons v rest ih =>
    obtain ⟨⟨x, hx⟩, hrest⟩ := List.forall_mem_cons.1 h
    obtain ⟨xs, hxs⟩ := ih hrest
    refine ⟨x :: xs, ?_⟩
    rw [Source.ofItems, eachItem, hx, hxs]
    rfl

theorem exists_eachField {decode : Decoder α} {fields : Document}
    (h : ∀ field ∈ fields, decode.Accepts field.2) (done : Entries α) :
    ∃ xs, eachField decode done (Source.ofFields fields) = .ok xs := by
  induction fields generalizing done with
  | nil => exact ⟨done, rfl⟩
  | cons field rest ih =>
    obtain ⟨key, v⟩ := field
    obtain ⟨⟨x, hx⟩, hrest⟩ := List.forall_mem_cons.1 h
    obtain ⟨xs, hxs⟩ := ih hrest (Entries.insert key x done)
    refine ⟨xs, ?_⟩
    rw [Source.ofFields, eachField, hx]
    exact hxs

theorem accepts_values_iff : (items value).Accepts v ↔ Kind.list.Fits v := by
  constructor
  · rintro ⟨xs, h⟩
    match v with
    | .array vs => exact ⟨vs, rfl⟩
    | .null | .bool _ | .number _ | .string _ | .object _ => cases h
  · rintro ⟨vs, rfl⟩
    obtain ⟨xs, hxs⟩ := exists_eachItem fun v (_ : v ∈ vs) => accepts_value v
    refine ⟨xs, ?_⟩
    rw [Source.ofJson, items, hxs]
    rfl

theorem accepts_document_iff : document.Accepts v ↔ Kind.object.Fits v := by
  constructor
  · rintro ⟨doc, h⟩
    match v with
    | .object fields => exact ⟨fields, rfl⟩
    | .null | .bool _ | .number _ | .string _ | .array _ => cases h
  · rintro ⟨fields, rfl⟩
    obtain ⟨doc, hdoc⟩ :=
      exists_eachField (fun field (_ : field ∈ fields) => accepts_value field.2) []
    refine ⟨doc, ?_⟩
    rw [Source.ofJson, document, entries, hdoc]
    rfl

/-! ### Forms in turn -/

theorem forall_map_ne_ok_iff {decode : Decoder α} {f : α → β} :
    (∀ y, (decode (.ofJson v)).map f ≠ .ok y) ↔ ¬decode.Accepts v := by
  constructor
  · rintro h ⟨x, hx⟩
    exact h (f x) (map_eq_ok_iff.2 ⟨x, hx, rfl⟩)
  · intro h y hy
    obtain ⟨x, hx, -⟩ := map_eq_ok_iff.1 hy
    exact h ⟨x, hx⟩

theorem firstOf_eq_error {type : String} {decoders : List (Decoder α)}
    (h : ¬Accepts (firstOf type decoders) v) :
    firstOf type decoders (.ofJson v) = .error (.noVariant type) := by
  obtain ⟨w, hw⟩ := accepts_value v
  unfold Accepts at h
  unfold firstOf at h ⊢
  rw [hw] at h ⊢
  simp only [bind, Except.bind] at h ⊢
  split
  · next x hx =>
    rw [hx] at h
    exact absurd ⟨x, rfl⟩ h
  · rfl

end Decoder

/-! ## Fields -/

namespace Field

/-- The field is loaded from the value, whatever was loaded before it. -/
def Accepts (field : Field α) (v : Json) : Prop :=
  ∀ record, ∃ record', field.load (.ofJson v) record = .ok record'

/-- What was loaded before has no say in whether the field is loaded. -/
def Steady (field : Field α) : Prop :=
  ∀ v record record', field.load (.ofJson v) record = .ok record' → field.Accepts v

variable {name : String} {decode : Decoder β} {set : α → β → α}

theorem accepts_of_iff (initial : α) : (Field.of name decode set).Accepts v ↔ decode.Accepts v := by
  constructor
  · intro h
    obtain ⟨record', hload⟩ := h initial
    obtain ⟨b, hb, -⟩ := map_eq_ok_iff.1 hload
    exact ⟨b, hb⟩
  · rintro ⟨b, hb⟩ record
    exact ⟨set record b, map_eq_ok_iff.2 ⟨b, hb, rfl⟩⟩

theorem steady_of : (Field.of name decode set).Steady := by
  intro v record record' h other
  obtain ⟨b, hb, -⟩ := map_eq_ok_iff.1 h
  exact ⟨set other b, map_eq_ok_iff.2 ⟨b, hb, rfl⟩⟩

theorem forall_accepts_of_iff {kind : Kind} (hkind : ∀ v, decode.Accepts v ↔ kind.Fits v)
    (initial : α) {doc : Document} :
    (∀ v, Entries.get? (Field.of name decode set).name doc = some v →
        (Field.of name decode set).Accepts v) ↔ MayHave doc name kind := by
  simp only [accepts_of_iff initial, hkind]
  rfl

end Field

/-! ## Records -/

namespace Shape

variable {shape : Shape α} {doc : Document} {record x : α} {seen seen' : List String}

/-- Every field takes what the document has under its name. -/
def Takes (shape : Shape α) (doc : Document) : Prop :=
  ∀ field ∈ shape.fields, ∀ v, Entries.get? field.name doc = some v → field.Accepts v

theorem takes_nil : shape.Takes [] := by
  intro field _ v hv
  cases hv

theorem takes_cons_of_unknown {key : String} (hkey : ∀ field ∈ shape.fields, field.name ≠ key) :
    shape.Takes ((key, v) :: doc) ↔ shape.Takes doc := by
  unfold Takes
  refine forall₂_congr fun field hfield => ?_
  rw [Entries.get?, if_neg (Ne.symm (hkey field hfield))]

theorem takes_cons_of_field (hnames : (shape.fields.map (·.name)).Nodup) {field : Field α}
    (hfield : field ∈ shape.fields) (hnew : field.name ∉ Entries.keys doc) :
    shape.Takes ((field.name, v) :: doc) ↔ field.Accepts v ∧ shape.Takes doc := by
  have hsame : ∀ other ∈ shape.fields, field.name = other.name → other = field := by
    intro other hother hname
    have hfind := find?_name_eq hnames hother
    rw [← hname, find?_name_eq hnames hfield] at hfind
    exact (Option.some.inj hfind).symm
  constructor
  · intro h
    refine ⟨h field hfield v (by rw [Entries.get?, if_pos rfl]), ?_⟩
    intro other hother w hw
    have hne : field.name ≠ other.name := by
      intro hname
      rw [← hname, Entries.get?_eq_none_of_notMem_keys hnew] at hw
      cases hw
    exact h other hother w (by rw [Entries.get?, if_neg hne, hw])
  · rintro ⟨hv, hrest⟩ other hother w hw
    by_cases hname : field.name = other.name
    · rw [Entries.get?, if_pos hname, Option.some.injEq] at hw
      rw [hsame other hother hname, ← hw]
      exact hv
    · rw [Entries.get?, if_neg hname] at hw
      exact hrest other hother w hw

theorem exists_loadFields_iff (hnames : (shape.fields.map (·.name)).Nodup)
    (hsteady : ∀ field ∈ shape.fields, field.Steady) (hdoc : (Entries.keys doc).Nodup)
    (hseen : ∀ key ∈ Entries.keys doc, key ∉ seen) (record : α) :
    (∃ result, shape.loadFields seen record (Source.ofFields doc) = .ok result) ↔
      shape.Takes doc := by
  induction doc generalizing seen record with
  | nil => exact iff_of_true ⟨_, rfl⟩ takes_nil
  | cons entry doc ih =>
    obtain ⟨key, v⟩ := entry
    rw [Entries.keys_cons] at hdoc hseen
    obtain ⟨hkey, hrest⟩ := List.nodup_cons.1 hdoc
    obtain ⟨hnew, hlater⟩ := List.forall_mem_cons.1 hseen
    rw [Source.ofFields, loadFields]
    cases hfind : shape.fields.find? fun field => field.name = key with
    | none =>
      have hunknown : ∀ field ∈ shape.fields, field.name ≠ key := by simpa using hfind
      rw [takes_cons_of_unknown hunknown, skip_ofJson]
      exact ih hrest hlater record
    | some field =>
      have hfield : field ∈ shape.fields := List.mem_of_find?_eq_some hfind
      have hname : field.name = key := by simpa using List.find?_some hfind
      subst hname
      have hlater' : ∀ key ∈ Entries.keys doc, key ∉ field.name :: seen := by
        intro other hother
        rw [List.mem_cons, not_or]
        exact ⟨fun heq => hkey (heq ▸ hother), hlater other hother⟩
      rw [takes_cons_of_field hnames hfield hkey]
      simp only [if_neg hnew]
      -- Whether a steady field takes a value does not depend on the record so far.
      constructor
      · rintro ⟨result, h⟩
        obtain ⟨record', hload, h⟩ := bind_eq_ok_iff.1 h
        exact ⟨hsteady field hfield v record record' hload, (ih hrest hlater' record').1 ⟨result, h⟩⟩
      · rintro ⟨hv, htakes⟩
        obtain ⟨record', hload⟩ := hv record
        obtain ⟨result, h⟩ := (ih hrest hlater' record').2 htakes
        exact ⟨result, bind_eq_ok_iff.2 ⟨record', hload, h⟩⟩

theorem seen_of_loadFields
    (h : shape.loadFields seen record (Source.ofFields doc) = .ok (seen', x)) :
    (∀ name ∈ seen, name ∈ seen') ∧
      ∀ field ∈ shape.fields, field.name ∈ Entries.keys doc → field.name ∈ seen' := by
  induction doc generalizing seen record with
  | nil =>
    cases h
    exact ⟨fun _ hname => hname, fun _ _ hname => absurd hname List.not_mem_nil⟩
  | cons entry doc ih =>
    obtain ⟨key, v⟩ := entry
    rw [Source.ofFields, loadFields] at h
    cases hfind : shape.fields.find? fun field => field.name = key with
    | none =>
      have hunknown : ∀ field ∈ shape.fields, field.name ≠ key := by simpa using hfind
      rw [hfind, skip_ofJson] at h
      obtain ⟨hkept, hloaded⟩ := ih h
      refine ⟨hkept, fun field hfield hname => ?_⟩
      rw [Entries.keys_cons, List.mem_cons] at hname
      exact hloaded field hfield (hname.resolve_left (hunknown field hfield))
    | some found =>
      rw [hfind] at h
      dsimp only at h
      split at h
      · cases h
      · obtain ⟨record', -, h⟩ := bind_eq_ok_iff.1 h
        obtain ⟨hkept, hloaded⟩ := ih h
        refine ⟨fun name hname => hkept name (List.mem_cons_of_mem _ hname), ?_⟩
        intro field hfield hname
        rw [Entries.keys_cons, List.mem_cons] at hname
        rcases hname with hname | hname
        · exact hname ▸ hkept key List.mem_cons_self
        · exact hloaded field hfield hname

/-- A record is loaded from an object exactly when its fields take what is there and nothing that is
required is left out. -/
theorem accepts_object_iff (origin : Origin) (hnames : (shape.fields.map (·.name)).Nodup)
    (hsteady : ∀ field ∈ shape.fields, field.Steady)
    (hrequired : ∀ name ∈ shape.required, name ∈ shape.fields.map (·.name))
    (hdoc : (Entries.keys doc).Nodup) :
    (shape.decode origin).Accepts (.object doc) ↔
      shape.Takes doc ∧ ∀ name ∈ shape.required, name ∈ Entries.keys doc := by
  have htakes := exists_loadFields_iff hnames hsteady hdoc (fun _ _ => List.not_mem_nil) shape.initial
  constructor
  · rintro ⟨x, h⟩
    have hkeys := required_mem_keys h
    rw [Source.ofJson, decode] at h
    obtain ⟨seen, hload, -⟩ := exists_loadFields_of_ofFields h
    exact ⟨htakes.1 ⟨_, hload⟩, hkeys⟩
  · rintro ⟨hfields, hkeys⟩
    obtain ⟨⟨seen, x⟩, hload⟩ := htakes.2 hfields
    have hmissing : shape.missing? seen = none := by
      rw [missing?_eq_none_iff]
      intro name hname
      obtain ⟨field, hfield, rfl⟩ := List.mem_map.1 (hrequired name hname)
      exact (seen_of_loadFields hload).2 field hfield (hkeys _ hname)
    refine ⟨x, ?_⟩
    rw [Source.ofJson, decode, ofFields, hload]
    simp only [bind, Except.bind, Source.use, mapError_ok, hmissing]
    rfl

end Shape

end ReportQuery.Json
