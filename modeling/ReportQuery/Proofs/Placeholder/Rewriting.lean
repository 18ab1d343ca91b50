import ReportQuery.Proofs.Filter.DateRange

/-!
# Values after resolving

A value keeps its shape. Each text that names an instant in range becomes that instant, with the bound
of the nearest key above it, and every other text stays. Nothing is left to resolve a second time.

Main statement: `Json.resolve_rewrites`.
-/

namespace ReportQuery

/-! ## Instants in range -/

namespace Placeholder

/-- The token names an instant that dates reach. -/
def Reaches (now : Instant) (token : String) : Prop :=
  ∃ offset instant, Names token offset ∧ now.addDays? offset = some instant

theorem natAbs_le_of_addDays? {now instant : Instant} {offset : Int}
    (h : now.addDays? offset = some instant) : offset.natAbs ≤ maxDays := by
  rcases Instant.date_of_addDays? h with hday | hday
  · exact Nat.le_of_lt (natAbs_lt_of_addDays? hday)
  · have := natAbs_lt_of_addDays? hday
    omega

theorem resolve?_eq_some_iff {bound : DayBound} {now : Instant} {token text : String} :
    resolve? bound now token = some text ↔ ∃ offset instant, Names token offset ∧
      now.addDays? offset = some instant ∧ text = String.ofList (bound.apply instant).toText := by
  simp only [resolve?, Option.bind_eq_bind, Option.bind_eq_some_iff, Option.pure_def,
    Option.some.injEq, offset?_eq_some_iff]
  constructor
  · rintro ⟨offset, ⟨hnames, -⟩, instant, hinstant, rfl⟩
    exact ⟨offset, instant, hnames, hinstant, rfl⟩
  · rintro ⟨offset, instant, hnames, hinstant, rfl⟩
    exact ⟨offset, ⟨hnames, natAbs_le_of_addDays? hinstant⟩, instant, hinstant, rfl⟩

theorem reaches_iff_isSome_resolve? (bound : DayBound) {now : Instant} {token : String} :
    Reaches now token ↔ ∃ text, resolve? bound now token = some text := by
  simp only [resolve?_eq_some_iff]
  constructor
  · rintro ⟨offset, instant, hnames, hinstant⟩
    exact ⟨_, offset, instant, hnames, hinstant, rfl⟩
  · rintro ⟨_, offset, instant, hnames, hinstant, -⟩
    exact ⟨offset, instant, hnames, hinstant⟩

end Placeholder

/-! ## Texts of instants -/

namespace Placeholder

theorem offset?_instant (t : Instant) : offset? (String.ofList t.toText) = none := by
  obtain ⟨c, rest, hcons, hc⟩ := t.date.exists_toText_eq_cons
  unfold Instant.toText
  rw [hcons]
  exact offset?_of_head_ne hc _

theorem offset?_of_resolve? {bound : DayBound} {now : Instant} {token text : String}
    (h : resolve? bound now token = some text) : offset? text = none := by
  obtain ⟨offset, instant, -, -, rfl⟩ := resolve?_eq_some_iff.1 h
  exact offset?_instant _

theorem resolveText_resolveText (bound : DayBound) (now : Instant) (token : String) :
    resolveText bound now (resolveText bound now token) = resolveText bound now token := by
  cases h : resolve? bound now token with
  | none =>
    have hself : resolveText bound now token = token := by rw [resolveText, h, Option.getD_none]
    rw [hself, hself]
  | some text =>
    have hself : resolveText bound now token = text := by rw [resolveText, h, Option.getD_some]
    rw [hself, resolveText_of_offset?_eq_none (offset?_of_resolve? h)]

theorem resolveText_ne_iff {bound : DayBound} {now : Instant} {token : String} :
    resolveText bound now token ≠ token ↔ Reaches now token := by
  rw [reaches_iff_isSome_resolve? bound]
  cases h : resolve? bound now token with
  | none => simp [resolveText, h]
  | some text =>
    have hne : text ≠ token := by
      rintro rfl
      rw [resolve?_of_offset?_eq_none (offset?_of_resolve? h)] at h
      cases h
    simp [resolveText, h, hne]

end Placeholder

/-! ## Places in a value -/

/-- The bound for values under a key: days of a range are whole. -/
inductive DayBound.Under : Option String → DayBound → Prop
  | gte : Under (some "$gte") .startOfDay
  | lte : Under (some "$lte") .endOfDay
  | other {key : Option String} (hgte : key ≠ some "$gte") (hlte : key ≠ some "$lte") :
    Under key .exact

theorem DayBound.under_iff {key : Option String} {bound : DayBound} :
    Under key bound ↔ ofKey key = bound := by
  constructor
  · intro h
    cases h with
    | gte => rfl
    | lte => rfl
    | other hgte hlte => rw [ofKey, if_neg hgte, if_neg hlte]
  · rintro rfl
    unfold ofKey
    split
    · next h => rw [h]; exact .gte
    · next hgte =>
      split
      · next h => rw [h]; exact .lte
      · next hlte => exact .other hgte hlte

namespace Json

mutual

/-- The value with every string left blank. -/
def outline : Json → Json
  | string _ => string ""
  | array items => array (outlineItems items)
  | object fields => object (outlineFields fields)
  | value => value

def outlineItems : List Json → List Json
  | [] => []
  | item :: rest => item.outline :: outlineItems rest

def outlineFields : List (String × Json) → List (String × Json)
  | [] => []
  | (key, value) :: rest => (key, value.outline) :: outlineFields rest

end

/-- The part of a value at a path of places, after the keys on the way to it. -/
def reach? : List Nat → Json → Option (List String × Json)
  | [], value => some ([], value)
  | place :: path, array items => (items[place]?).bind (reach? path)
  | place :: path, object fields => (fields[place]?).bind fun (key, value) =>
    (reach? path value).map fun (keys, part) => (key :: keys, part)
  | _ :: _, _ => none

mutual

theorem outline_resolveUnder (now : Instant) (key : Option String) :
    ∀ value : Json, (resolveUnder now key value).outline = value.outline
  | null | bool _ | number _ => rfl
  | string _ => rfl
  | array items => by rw [resolveUnder, outline, outline, outlineItems_resolveItems now key items]
  | object fields => by rw [resolveUnder, outline, outline, outlineFields_resolveFields now fields]

theorem outlineItems_resolveItems (now : Instant) (key : Option String) :
    ∀ items : List Json, outlineItems (resolveItems now key items) = outlineItems items
  | [] => rfl
  | item :: rest => by
    rw [resolveItems, outlineItems, outlineItems, outline_resolveUnder now key item,
      outlineItems_resolveItems now key rest]

theorem outlineFields_resolveFields (now : Instant) :
    ∀ fields : List (String × Json), outlineFields (resolveFields now fields) = outlineFields fields
  | [] => rfl
  | (key, value) :: rest => by
    rw [resolveFields, outlineFields, outlineFields, outline_resolveUnder now (some key) value,
      outlineFields_resolveFields now rest]

end

mutual

theorem resolveUnder_resolveUnder (now : Instant) (key : Option String) :
    ∀ value : Json, resolveUnder now key (resolveUnder now key value) = resolveUnder now key value
  | null | bool _ | number _ => rfl
  | string token => by
    rw [resolveUnder, resolveUnder, Placeholder.resolveText_resolveText]
  | array items => by rw [resolveUnder, resolveUnder, resolveItems_resolveItems now key items]
  | object fields => by rw [resolveUnder, resolveUnder, resolveFields_resolveFields now fields]

theorem resolveItems_resolveItems (now : Instant) (key : Option String) :
    ∀ items : List Json, resolveItems now key (resolveItems now key items) =
      resolveItems now key items
  | [] => rfl
  | item :: rest => by
    rw [resolveItems, resolveItems, resolveUnder_resolveUnder now key item,
      resolveItems_resolveItems now key rest]

theorem resolveFields_resolveFields (now : Instant) :
    ∀ fields : List (String × Json), resolveFields now (resolveFields now fields) =
      resolveFields now fields
  | [] => rfl
  | (key, value) :: rest => by
    rw [resolveFields, resolveFields, resolveUnder_resolveUnder now (some key) value,
      resolveFields_resolveFields now rest]

end

/-- A part is resolved under the innermost key on the way to it. -/
theorem reach?_resolveUnder (now : Instant) (path : List Nat) (key : Option String) (value : Json) :
    (resolveUnder now key value).reach? path =
      (value.reach? path).map fun (keys, part) =>
        (keys, resolveUnder now (keys.getLast?.or key) part) := by
  induction path generalizing key value with
  | nil => rfl
  | cons place path ih =>
    cases value with
    | array items =>
      rw [resolveUnder, resolveItems_eq_map, reach?, reach?, List.getElem?_map]
      cases items[place]? with
      | none => rfl
      | some item => exact ih key item
    | object fields =>
      rw [resolveUnder, resolveFields_eq_mapValues, reach?, reach?, Entries.mapValues,
        List.getElem?_map]
      cases fields[place]? with
      | none => rfl
      | some field =>
        obtain ⟨name, inner⟩ := field
        have hinner := ih (some name) inner
        simp only [Option.map_some, Option.bind_some, hinner, Option.map_map]
        refine Option.map_congr fun found _ => ?_
        obtain ⟨keys, part⟩ := found
        -- The name of this field counts only where no key follows it.
        cases h : keys.getLast? <;> simp [List.getLast?_cons, h]
    | _ => rfl

/-- Resolving rewrites the placeholders that can be resolved and nothing else, once and for all. -/
theorem resolve_rewrites (now : Instant) (value : Json) :
    (value.resolve now).outline = value.outline ∧
    (∀ path keys token, value.reach? path = some (keys, .string token) →
      ∃ text, (value.resolve now).reach? path = some (keys, .string text) ∧
        (text ≠ token ↔ Placeholder.Reaches now token) ∧
        (Placeholder.Reaches now token → ∃ bound, DayBound.Under keys.getLast? bound ∧
          Placeholder.resolve? bound now token = some text)) ∧
    (value.resolve now).resolve now = value.resolve now := by
  refine ⟨outline_resolveUnder now none value, ?_, resolveUnder_resolveUnder now none value⟩
  intro path keys token hpath
  refine ⟨Placeholder.resolveText (.ofKey keys.getLast?) now token, ?_,
    Placeholder.resolveText_ne_iff, ?_⟩
  · unfold resolve
    rw [reach?_resolveUnder, hpath]
    simp only [Option.map_some, Option.or_none, resolveUnder]
  · intro hreach
    obtain ⟨text, htext⟩ := (Placeholder.reaches_iff_isSome_resolve? (.ofKey keys.getLast?)).1 hreach
    refine ⟨.ofKey keys.getLast?, DayBound.under_iff.2 rfl, ?_⟩
    rw [Placeholder.resolveText, htext, Option.getD_some]

/-- Orders since the day before, and a label that only looks like a date. -/
def recentOrders : Json :=
  .object [("seenAt", .object [("$gte", .array [.array [.string "now-1d"]])]),
    ("label", .string "now-1w")]

theorem resolve_rewrites_of_recentOrders :
    (∃ text, (recentOrders.resolve .epoch).reach? [0, 0, 0, 0] =
        some (["seenAt", "$gte"], .string text) ∧ text ≠ "now-1d" ∧
        Placeholder.resolve? .startOfDay .epoch "now-1d" = some text) ∧
      (recentOrders.resolve .epoch).reach? [1] = some (["label"], .string "now-1w") := by
  obtain ⟨-, htexts, -⟩ := resolve_rewrites .epoch recentOrders
  have hreach : Placeholder.Reaches .epoch "now-1d" :=
    ⟨-1, ⟨⟨-1, by decide, by decide⟩, .midnight⟩,
      (Placeholder.offset?_eq_some_iff.1 (by decide +kernel)).1, by rfl⟩
  constructor
  · obtain ⟨text, hpart, hne, hresolved⟩ := htexts [0, 0, 0, 0] ["seenAt", "$gte"] "now-1d" rfl
    obtain ⟨bound, hbound, htext⟩ := hresolved hreach
    rw [← DayBound.under_iff.1 hbound] at htext
    exact ⟨text, hpart, hne.2 hreach, htext⟩
  · obtain ⟨text, hpart, hne, -⟩ := htexts [1] ["label"] "now-1w" rfl
    have hstays : text = "now-1w" := by
      refine Decidable.byContradiction fun h => ?_
      obtain ⟨offset, instant, hnames, hinstant⟩ := hne.1 h
      have hoffset := Placeholder.offset?_eq_some_iff.2
        ⟨hnames, Placeholder.natAbs_le_of_addDays? hinstant⟩
      rw [show Placeholder.offset? "now-1w" = none by decide +kernel] at hoffset
      cases hoffset
    rw [hpart, hstays]

end Json

end ReportQuery
