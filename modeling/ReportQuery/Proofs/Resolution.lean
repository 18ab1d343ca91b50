import ReportQuery.Filter.Predicate

/-!
# What resolving placeholders keeps

Resolving changes the text of strings and nothing else: an object keeps its keys, and a value that
says something still does. Main statement: `isBlank_resolveUnder`.
-/

namespace ReportQuery

/-! ## Texts -/

theorem Date.toText_ne_nil (d : Date) : d.toText ≠ [] := by
  unfold Date.toText
  simp

theorem Instant.toText_ne_nil (t : Instant) : t.toText ≠ [] := by
  unfold Instant.toText
  simp

namespace Placeholder

theorem offset?_empty : offset? "" = none := rfl

theorem offset?_of_head_ne {c : Char} (h : c ≠ 'n') (rest : List Char) :
    offset? (String.ofList (c :: rest)) = none := by
  unfold offset?
  rw [String.toList_ofList, Text.afterPrefix?, if_neg (Ne.symm h)]
  rfl

theorem resolve?_of_offset?_eq_none {token : String} (h : offset? token = none) (bound : DayBound)
    (now : Instant) : resolve? bound now token = none := by
  unfold resolve?
  rw [h]
  rfl

theorem resolveText_of_offset?_eq_none {token : String} (h : offset? token = none)
    (bound : DayBound) (now : Instant) : resolveText bound now token = token := by
  rw [resolveText, resolve?_of_offset?_eq_none h, Option.getD_none]

theorem ne_empty_of_resolve? {bound : DayBound} {now : Instant} {token text : String}
    (h : resolve? bound now token = some text) : text ≠ "" := by
  unfold resolve? at h
  simp only [Option.bind_eq_bind, Option.bind_eq_some_iff, Option.pure_def, Option.some.injEq] at h
  obtain ⟨offset, -, instant, -, rfl⟩ := h
  simp [Instant.toText_ne_nil]

theorem resolveText_eq_empty_iff (bound : DayBound) (now : Instant) (token : String) :
    resolveText bound now token = "" ↔ token = "" := by
  unfold resolveText
  cases h : resolve? bound now token with
  | none => rw [Option.getD_none]
  | some text =>
    refine iff_of_false (ne_empty_of_resolve? h) ?_
    rintro rfl
    rw [resolve?, offset?_empty] at h
    cases h

end Placeholder

/-! ## Values -/

namespace Json

theorem resolveItems_eq_map (now : Instant) (key : Option String) (items : List Json) :
    resolveItems now key items = items.map (resolveUnder now key) := by
  induction items with
  | nil => rfl
  | cons item rest ih => rw [resolveItems, List.map_cons, ih]

theorem resolveItems_none (now : Instant) (items : List Json) :
    resolveItems now none items = items.map (resolve now) :=
  resolveItems_eq_map now none items

theorem resolveFields_eq_mapValues (now : Instant) (fields : Document) :
    resolveFields now fields = Entries.mapValues (fun key => resolveUnder now (some key)) fields := by
  induction fields with
  | nil => rfl
  | cons field rest ih =>
    obtain ⟨key, value⟩ := field
    rw [resolveFields, ih]
    rfl

theorem get?_resolveFields (now : Instant) (key : String) (fields : Document) :
    Entries.get? key (resolveFields now fields) =
      (Entries.get? key fields).map (resolveUnder now (some key)) := by
  rw [resolveFields_eq_mapValues, Entries.get?_mapValues]

theorem get?_resolveUnder (now : Instant) (above : Option String) (key : String) (value : Json) :
    (value.resolveUnder now above).get? key =
      (value.get? key).map (resolveUnder now (some key)) := by
  cases value with
  | object fields => simp only [resolveUnder, Json.get?, get?_resolveFields]
  | _ => simp [resolveUnder, Json.get?]

theorem isBlank_resolveUnder (now : Instant) (key : Option String) (value : Json) :
    Filter.isBlank (resolveUnder now key value) = Filter.isBlank value := by
  cases value with
  | string token => simp [resolveUnder, Filter.isBlank, Placeholder.resolveText_eq_empty_iff]
  | _ => simp [resolveUnder, Filter.isBlank]

end Json

end ReportQuery
