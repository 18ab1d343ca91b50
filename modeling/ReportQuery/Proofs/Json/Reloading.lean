import ReportQuery.Config.Encode

/-!
# Loading what was written

A decoder reloads what it gives: from the JSON that is written of a loaded part, it loads the same
part again. Here for plain values, lists, entries and optional parts.

Main statements: `toJson_ofJson`, `distinct_of_toJson`, `gives_value`, `gives_items`, `gives_entries`.
-/

namespace ReportQuery.Json

/-! ## Results -/

section Results

variable {ε α β : Type} {x : Except ε α} {b : β}

theorem bind_eq_ok_iff {f : α → Except ε β} :
    x >>= f = .ok b ↔ ∃ a, x = .ok a ∧ f a = .ok b := by
  cases x <;> simp [bind, Except.bind]

theorem mapError_ok {δ : Type} (f : ε → δ) (a : α) : (Except.ok a).mapError f = .ok a := rfl

theorem mapError_eq_ok_iff {δ : Type} {f : ε → δ} {y : Except ε β} :
    y.mapError f = .ok b ↔ y = .ok b := by
  cases y with
  | error e => exact ⟨fun h => (by cases h), fun h => (by cases h)⟩
  | ok a =>
    rw [mapError_ok]
    exact ⟨fun h => (by cases h; rfl), fun h => (by cases h; rfl)⟩

theorem map_eq_ok_iff {f : α → β} : x.map f = .ok b ↔ ∃ a, x = .ok a ∧ f a = b := by
  cases x <;> simp [Except.map]

end Results

/-! ## Values without repeated keys -/

mutual

/-- No object of the value has a key twice, as in every value that a source spells:
`distinct_of_toJson`. -/
def Distinct : Json → Prop
  | array items => DistinctItems items
  | object fields => (Entries.keys fields).Nodup ∧ DistinctFields fields
  | _ => True

def DistinctItems : List Json → Prop
  | [] => True
  | item :: rest => item.Distinct ∧ DistinctItems rest

def DistinctFields : List (String × Json) → Prop
  | [] => True
  | (_, value) :: rest => value.Distinct ∧ DistinctFields rest

end

mutual

theorem toJson_ofJson : (v : Json) → v.Distinct → (Source.ofJson v).toJson = .ok v
  | .null, _ | .bool _, _ | .number _, _ | .string _, _ => rfl
  | .array items, h => by
    rw [Distinct] at h
    rw [Source.ofJson, Source.toJson, toItems_ofItems items h]
    rfl
  | .object fields, h => by
    rw [Distinct] at h
    rw [Source.ofJson, Source.toJson, toFields_ofFields fields [] h.1 h.2]
    rfl

theorem toItems_ofItems :
    (items : List Json) → DistinctItems items → Source.toItems (Source.ofItems items) = .ok items
  | [], _ => rfl
  | item :: rest, h => by
    rw [DistinctItems] at h
    rw [Source.ofItems, Source.toItems, toJson_ofJson item h.1, toItems_ofItems rest h.2]
    rfl

theorem toFields_ofFields :
    (fields done : Document) → (Entries.keys done ++ Entries.keys fields).Nodup →
      DistinctFields fields → Source.toFields done (Source.ofFields fields) = .ok (done ++ fields)
  | [], done, _, _ => by rw [Source.ofFields, Source.toFields, List.append_nil]
  | (key, value) :: rest, done, hkeys, h => by
    rw [DistinctFields] at h
    rw [Entries.keys_cons] at hkeys
    have hrest : (Entries.keys (done ++ [(key, value)]) ++ Entries.keys rest).Nodup := by
      rw [Entries.keys_append, List.append_assoc]
      exact hkeys
    rw [Source.ofFields, Source.toFields, toJson_ofJson value h.1]
    simp only [bind, Except.bind]
    rw [Entries.insert_of_nodup hkeys, toFields_ofFields rest _ hrest h.2, List.append_assoc]
    rfl

end

theorem distinctFields_insert {key : String} {value : Json} (hvalue : value.Distinct) :
    ∀ {done : Document}, DistinctFields done → DistinctFields (Entries.insert key value done)
  | [], _ => by
    rw [Entries.insert, DistinctFields]
    exact ⟨hvalue, trivial⟩
  | (k, v) :: rest, h => by
    rw [DistinctFields] at h
    rw [Entries.insert]
    split <;> rw [DistinctFields]
    · exact ⟨hvalue, h.2⟩
    · exact ⟨h.1, distinctFields_insert hvalue h.2⟩

mutual

theorem distinct_of_toJson : (source : Source) → {v : Json} → source.toJson = .ok v → v.Distinct
  | .null, _, h | .bool _, _, h | .number _, _, h | .string _, _, h => by
    obtain rfl := Except.ok.inj h
    simp only [Distinct]
  | .array items stop, v, h => by
    rw [Source.toJson, bind_eq_ok_iff] at h
    obtain ⟨values, hvalues, h⟩ := h
    obtain ⟨_, _, h⟩ := bind_eq_ok_iff.1 h
    obtain rfl := Except.ok.inj h
    rw [Distinct]
    exact distinctItems_of_toItems items hvalues
  | .object fields stop, v, h => by
    rw [Source.toJson, bind_eq_ok_iff] at h
    obtain ⟨entries, hentries, h⟩ := h
    obtain ⟨_, _, h⟩ := bind_eq_ok_iff.1 h
    obtain rfl := Except.ok.inj h
    have hnone : (Entries.keys ([] : Document)).Nodup := List.nodup_nil
    rw [Distinct]
    exact distinctFields_of_toFields fields hnone trivial hentries
  | .broken _ _, _, h | .refused _ _, _, h => nomatch h

theorem distinctItems_of_toItems :
    (sources : List Source) → {items : List Json} → Source.toItems sources = .ok items →
      DistinctItems items
  | [], _, h => by
    obtain rfl := Except.ok.inj h
    trivial
  | source :: rest, items, h => by
    rw [Source.toItems, bind_eq_ok_iff] at h
    obtain ⟨item, hitem, h⟩ := h
    obtain ⟨others, hothers, h⟩ := bind_eq_ok_iff.1 h
    obtain rfl := Except.ok.inj h
    rw [DistinctItems]
    exact ⟨distinct_of_toJson source hitem, distinctItems_of_toItems rest hothers⟩

theorem distinctFields_of_toFields :
    (sources : List (SourceKey × Source)) → {done fields : Document} →
      (Entries.keys done).Nodup → DistinctFields done →
      Source.toFields done sources = .ok fields →
      (Entries.keys fields).Nodup ∧ DistinctFields fields
  | [], done, fields, hkeys, hdone, h => by
    obtain rfl := Except.ok.inj h
    exact ⟨hkeys, hdone⟩
  | (sourceKey, source) :: rest, done, fields, hkeys, hdone, h => by
    rw [Source.toFields, bind_eq_ok_iff] at h
    obtain ⟨key, _, h⟩ := h
    obtain ⟨value, hvalue, h⟩ := bind_eq_ok_iff.1 h
    exact distinctFields_of_toFields rest (Entries.nodup_keys_insert hkeys)
      (distinctFields_insert (distinct_of_toJson source hvalue) hdone) h

end

/-! ## Decoders -/

namespace Decoder

variable {α : Type} {decode : Decoder α} {encode : α → Json} {P : α → Prop}

/-- What is written of `x` is loaded as `x`. -/
def Reloads (decode : Decoder α) (encode : α → Json) (x : α) : Prop :=
  decode (.ofJson (encode x)) = .ok x

/-- What is loaded from a value has the property. -/
def Gives (decode : Decoder α) (P : α → Prop) : Prop :=
  ∀ v x, v.Distinct → decode (.ofJson v) = .ok x → P x

theorem value_ofJson {v : Json} (h : v.Distinct) : value (.ofJson v) = .ok v := by
  rw [value, toJson_ofJson v h]
  rfl

theorem gives_value : value.Gives (value.Reloads id) := by
  intro v x hv h
  obtain rfl : v = x := Except.ok.inj ((value_ofJson hv).symm.trans h)
  exact h

theorem Reloads.map {β : Type} {x : α} (f : α → β) (h : decode.Reloads encode x) :
    (decode (.ofJson (encode x))).map f = .ok (f x) :=
  congrArg (Except.map f) h

/-! ### Texts, booleans and numbers -/

theorem gives_of_reloads (h : ∀ x, decode.Reloads encode x) :
    decode.Gives (decode.Reloads encode) := fun _ x _ _ => h x

theorem reloads_text (s : String) : text.Reloads .string s := rfl

theorem reloads_bool (b : Bool) : bool.Reloads .bool b := rfl

theorem uint32_integer {n : Int} (h : Fits64 n) (hn : 0 ≤ n ∧ n < 4294967296) :
    uint32 (.number (.integer n h)) = .ok (UInt32.ofNat n.toNat) := by
  simp only [uint32]
  rw [if_pos hn]

theorem reloads_uint32 (n : UInt32) : uint32.Reloads ofUInt32 n := by
  have hlt : n.toNat < 4294967296 := n.toNat_lt
  have hfits : Fits64 n.toNat := ⟨by omega, by omega⟩
  have hload := uint32_integer hfits (by omega)
  rwa [Int.toNat_natCast, UInt32.ofNat_toNat] at hload

/-! ### Lists -/

theorem eachItem_gives (hdecode : decode.Gives P) {vs : List Json} {xs : List α}
    (hvs : DistinctItems vs) (h : eachItem decode (Source.ofItems vs) = .ok xs) :
    ∀ x ∈ xs, P x := by
  induction vs generalizing xs with
  | nil =>
    cases h
    exact fun _ hx => absurd hx List.not_mem_nil
  | cons v vs ih =>
    rw [DistinctItems] at hvs
    rw [Source.ofItems, eachItem] at h
    obtain ⟨x, hx, h⟩ := bind_eq_ok_iff.1 h
    obtain ⟨rest, hrest, heq⟩ := bind_eq_ok_iff.1 h
    cases heq
    exact List.forall_mem_cons.2 ⟨hdecode v x hvs.1 hx, ih hvs.2 hrest⟩

theorem eachItem_reloads {xs : List α} (h : ∀ x ∈ xs, decode.Reloads encode x) :
    eachItem decode (Source.ofItems (xs.map encode)) = .ok xs := by
  induction xs with
  | nil => rfl
  | cons x xs ih =>
    obtain ⟨hx, hxs⟩ := List.forall_mem_cons.1 h
    rw [List.map_cons, Source.ofItems, eachItem, show decode (.ofJson (encode x)) = .ok x from hx,
      ih hxs]
    rfl

theorem gives_items (h : decode.Gives (decode.Reloads encode)) :
    (items decode).Gives ((items decode).Reloads fun xs => .array (xs.map encode)) := by
  intro v xs hv hload
  match v with
  | .array vs =>
    rw [Distinct] at hv
    rw [Source.ofJson, items] at hload
    obtain ⟨xs, hitems, heq⟩ := bind_eq_ok_iff.1 hload
    cases heq
    rw [Reloads, Source.ofJson, items, eachItem_reloads (eachItem_gives h hv hitems)]
    rfl
  | .null | .bool _ | .number _ | .string _ | .object _ => cases hload

theorem gives_values : (items value).Gives ((items value).Reloads .array) := by
  intro v vs hv h
  have hreload := gives_items gives_value v vs hv h
  rwa [Reloads, List.map_id] at hreload

/-! ### Entries -/

theorem eachField_gives (hdecode : decode.Gives P) {fields : Document} {done loaded : Entries α}
    (hkeys : (Entries.keys done ++ Entries.keys fields).Nodup) (hfields : DistinctFields fields)
    (hdone : ∀ entry ∈ done, P entry.2)
    (h : eachField decode done (Source.ofFields fields) = .ok loaded) :
    Entries.keys loaded = Entries.keys done ++ Entries.keys fields ∧
      ∀ entry ∈ loaded, P entry.2 := by
  induction fields generalizing done with
  | nil =>
    cases h
    exact ⟨(List.append_nil _).symm, hdone⟩
  | cons field rest ih =>
    obtain ⟨key, v⟩ := field
    rw [DistinctFields] at hfields
    rw [Entries.keys_cons] at hkeys
    rw [Source.ofFields, eachField] at h
    obtain ⟨_, hkey, h⟩ := bind_eq_ok_iff.1 h
    cases hkey
    obtain ⟨x, hx, h⟩ := bind_eq_ok_iff.1 h
    rw [Entries.insert_of_nodup hkeys] at h
    have hrest : Entries.keys (done ++ [(key, x)]) ++ Entries.keys rest =
        Entries.keys done ++ key :: Entries.keys rest := by
      rw [Entries.keys_append, List.append_assoc]
      rfl
    have hvalues : ∀ entry ∈ done ++ [(key, x)], P entry.2 :=
      List.forall_mem_append.2 ⟨hdone, List.forall_mem_singleton.2 (hdecode v x hfields.1 hx)⟩
    have hloaded := ih (hrest ▸ hkeys) hfields.2 hvalues h
    rwa [hrest] at hloaded

theorem eachField_reloads {entries done : Entries α}
    (hkeys : (Entries.keys done ++ Entries.keys entries).Nodup)
    (h : ∀ entry ∈ entries, decode.Reloads encode entry.2) :
    eachField decode done
      (Source.ofFields (Entries.mapValues (fun _ value => encode value) entries)) =
        .ok (done ++ entries) := by
  induction entries generalizing done with
  | nil => exact congrArg Except.ok (List.append_nil done).symm
  | cons entry rest ih =>
    obtain ⟨key, x⟩ := entry
    obtain ⟨hx, hrest⟩ := List.forall_mem_cons.1 h
    rw [Entries.keys_cons] at hkeys
    have hkeys' : (Entries.keys (done ++ [(key, x)]) ++ Entries.keys rest).Nodup := by
      rw [Entries.keys_append, List.append_assoc]
      exact hkeys
    have hstep := ih hkeys' hrest
    rw [List.append_assoc, List.singleton_append] at hstep
    rw [Entries.mapValues, List.map_cons, Source.ofFields, eachField,
      show decode (.ofJson (encode x)) = .ok x from hx]
    simp only [mapError_ok, bind, Except.bind]
    rw [Entries.insert_of_nodup hkeys]
    exact hstep

theorem gives_entries (h : decode.Gives (decode.Reloads encode)) :
    (entries decode).Gives ((entries decode).Reloads (ofEntries encode)) := by
  intro v loaded hv hload
  match v with
  | .object fields =>
    rw [Distinct] at hv
    rw [Source.ofJson, entries] at hload
    obtain ⟨loaded, hfields, heq⟩ := bind_eq_ok_iff.1 hload
    cases heq
    have hnone : ∀ entry ∈ ([] : Entries α), decode.Reloads encode entry.2 :=
      fun _ hmem => absurd hmem List.not_mem_nil
    have hnodup : (Entries.keys ([] : Entries α) ++ Entries.keys fields).Nodup := hv.1
    obtain ⟨hkeys, hvalues⟩ := eachField_gives h hnodup hv.2 hnone hfields
    have hnodup' : (Entries.keys ([] : Entries α) ++ Entries.keys loaded).Nodup := hkeys ▸ hnodup
    rw [Reloads, ofEntries, Source.ofJson, entries, eachField_reloads hnodup' hvalues]
    rfl
  | .null | .bool _ | .number _ | .string _ | .array _ => cases hload

theorem forall_distinct_of_distinctFields {fields : Document} (h : DistinctFields fields) :
    ∀ entry ∈ fields, entry.2.Distinct := by
  induction fields with
  | nil => exact fun _ hmem => absurd hmem List.not_mem_nil
  | cons entry rest ih =>
    rw [DistinctFields] at h
    exact List.forall_mem_cons.2 ⟨h.1, ih h.2⟩

theorem eq_object_of_document {v : Json} {doc : Document} (hv : v.Distinct)
    (h : document (.ofJson v) = .ok doc) : v = .object doc := by
  match v with
  | .object fields =>
    rw [Distinct] at hv
    have hvalues : ∀ entry ∈ fields, value.Reloads id entry.2 :=
      fun entry hmem => value_ofJson (forall_distinct_of_distinctFields hv.2 entry hmem)
    have hnodup : (Entries.keys ([] : Document) ++ Entries.keys fields).Nodup := hv.1
    have hsame : Entries.mapValues (fun _ value => id value) fields = fields := List.map_id _
    have hfields := eachField_reloads hnodup hvalues
    rw [hsame] at hfields
    rw [document, Source.ofJson, entries, hfields] at h
    cases h
    rfl
  | .null | .bool _ | .number _ | .string _ | .array _ => cases h

theorem gives_document : document.Gives (document.Reloads .object) := by
  intro v doc hv h
  rwa [eq_object_of_document hv h] at h

/-! ### Optional parts -/

/-- An optional part as it is written where nothing is left out. -/
def orNull (encode : α → Json) : Option α → Json
  | none => .null
  | some x => encode x

theorem optional_eq_of_ne_null {v : Json} (h : v ≠ .null) :
    optional decode (.ofJson v) = (decode (.ofJson v)).map some := by
  cases v with
  | null => exact absurd rfl h
  | bool _ | number _ | string _ | array _ | object _ => rfl

theorem gives_optional (h : ∀ v x, v.Distinct → v ≠ .null → decode (.ofJson v) = .ok x →
      decode.Reloads encode x ∧ encode x ≠ .null) :
    (optional decode).Gives ((optional decode).Reloads (orNull encode)) := by
  intro v x? hv hload
  by_cases hnull : v = .null
  · subst hnull
    cases hload
    rfl
  · rw [optional_eq_of_ne_null hnull] at hload
    obtain ⟨x, hx, rfl⟩ := map_eq_ok_iff.1 hload
    obtain ⟨hreload, hne⟩ := h v x hv hnull hx
    rw [Reloads, orNull, optional_eq_of_ne_null hne, show decode (.ofJson (encode x)) = .ok x from
      hreload]
    rfl

theorem gives_part (h : decode.Gives (decode.Reloads encode)) (hne : ∀ x, encode x ≠ .null) :
    (optional decode).Gives ((optional decode).Reloads (orNull encode)) :=
  gives_optional fun v x hv _ hx => ⟨h v x hv hx, hne x⟩

theorem gives_optional_value : (optional value).Gives ((optional value).Reloads (orNull id)) := by
  refine gives_optional fun v x hv hnull h => ?_
  obtain rfl : v = x := Except.ok.inj ((value_ofJson hv).symm.trans h)
  exact ⟨h, hnull⟩

theorem reloads_optional (h : ∀ x, decode.Reloads encode x) (hne : ∀ x, encode x ≠ .null) :
    (x? : Option α) → (optional decode).Reloads (orNull encode) x?
  | none => rfl
  | some x => by
    rw [Reloads, orNull, optional_eq_of_ne_null (hne x)]
    exact congrArg (Except.map some) (h x)

/-! ### Forms in turn -/

section Forms

variable {type : String} {decoders : List (Decoder α)} {v : Json} {x : α}

mutual

theorem exists_toJson_ofJson : (v : Json) → ∃ w, (Source.ofJson v).toJson = .ok w
  | .null | .bool _ | .number _ | .string _ => ⟨_, rfl⟩
  | .array items => by
    obtain ⟨ws, h⟩ := exists_toItems_ofItems items
    exact ⟨.array ws, by rw [Source.ofJson, Source.toJson, h]; rfl⟩
  | .object fields => by
    obtain ⟨ws, h⟩ := exists_toFields_ofFields fields []
    exact ⟨.object ws, by rw [Source.ofJson, Source.toJson, h]; rfl⟩

theorem exists_toItems_ofItems :
    (items : List Json) → ∃ ws, Source.toItems (Source.ofItems items) = .ok ws
  | [] => ⟨[], rfl⟩
  | item :: rest => by
    obtain ⟨w, hw⟩ := exists_toJson_ofJson item
    obtain ⟨ws, hws⟩ := exists_toItems_ofItems rest
    exact ⟨w :: ws, by rw [Source.ofItems, Source.toItems, hw, hws]; rfl⟩

theorem exists_toFields_ofFields :
    (fields done : Document) → ∃ ws, Source.toFields done (Source.ofFields fields) = .ok ws
  | [], done => ⟨done, rfl⟩
  | (key, value) :: rest, done => by
    obtain ⟨w, hw⟩ := exists_toJson_ofJson value
    obtain ⟨ws, hws⟩ := exists_toFields_ofFields rest (Entries.insert key w done)
    exact ⟨ws, by rw [Source.ofFields, Source.toFields, hw]; exact hws⟩

end

theorem firstOf_eq_ok_iff :
    firstOf type decoders (.ofJson v) = .ok x ↔
      decoders.findSome? (fun decode => (decode (.ofJson v)).toOption) = some x := by
  obtain ⟨w, hw⟩ := exists_toJson_ofJson v
  rw [firstOf, value, hw]
  simp only [mapError_ok, bind, Except.bind]
  cases decoders.findSome? fun decode => (decode (.ofJson v)).toOption with
  | none => exact ⟨fun h => (by cases h), fun h => (by cases h)⟩
  | some y => exact ⟨fun h => by cases h; rfl, fun h => by cases h; rfl⟩

theorem firstOf_nil : firstOf type [] (.ofJson v) ≠ .ok x := by
  rw [Ne, firstOf_eq_ok_iff]
  simp

theorem firstOf_cons :
    firstOf type (decode :: decoders) (.ofJson v) = .ok x ↔
      decode (.ofJson v) = .ok x ∨
        (∀ y, decode (.ofJson v) ≠ .ok y) ∧ firstOf type decoders (.ofJson v) = .ok x := by
  rw [firstOf_eq_ok_iff, firstOf_eq_ok_iff, List.findSome?_cons]
  cases decode (.ofJson v) <;> simp [Except.toOption]

end Forms

end Decoder

end ReportQuery.Json
