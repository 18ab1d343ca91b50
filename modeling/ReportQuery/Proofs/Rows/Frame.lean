import Mathlib.Data.List.Nodup
import ReportQuery.Proofs.Entries
import ReportQuery.Proofs.Execution

/-!
# What finishing changes in a row

Calculations write their own fields and formats change the texts of theirs. A calculation that fails
leaves null in its field and does not keep the others from theirs.

Main statement: `PostProcess.finish_frames`.
-/

namespace ReportQuery

/-! ## Shown values -/

namespace Format

theorem shown_eq_or (f : Format) (value : Json) :
    f.shown value = value ∨ ∃ text, f.shown value = .string text := by
  unfold shown
  cases f.text? value with
  | none => exact .inl rfl
  | some text => exact .inr ⟨_, rfl⟩

theorem shown_null (f : Format) : f.shown .null = .null := by
  have htext : f.text? .null = none := by
    unfold text?
    cases f.kind <;> rfl
  rw [shown, htext]

end Format

namespace PostProcess

open Entries

variable {row : Document}

/-! ## Calculated fields -/

theorem get?_calculateField (row : Document) (entry : String × Calculation) (key : String) :
    get? key (calculateField row entry) =
      if key = entry.1 then some (entry.2.value row) else get? key row := by
  unfold calculateField
  exact get?_insert _ _ _ _

theorem get?_foldl_calculateField_of_notMem {calculations : Entries Calculation} {key : String}
    (h : key ∉ keys calculations) (row : Document) :
    get? key (calculations.foldl calculateField row) = get? key row := by
  induction calculations generalizing row with
  | nil => rfl
  | cons entry rest ih =>
    obtain ⟨field, c⟩ := entry
    rw [keys_cons, List.mem_cons, not_or] at h
    rw [List.foldl_cons, ih h.2, get?_calculateField, if_neg h.1]

theorem keys_foldl_calculateField (calculations : Entries Calculation) (row : Document) :
    keys (calculations.foldl calculateField row) = extended (keys row) (keys calculations) := by
  induction calculations generalizing row with
  | nil => exact (extended_nil _).symm
  | cons entry rest ih =>
    obtain ⟨field, c⟩ := entry
    rw [List.foldl_cons, ih, keys_cons, extended_cons, ← keys_insert field (c.value row)]
    rfl

theorem get?_foldl_calculateField {before after : Entries Calculation} {field : String}
    {c : Calculation} (h : (keys (before ++ (field, c) :: after)).Nodup) (row : Document) :
    get? field ((before ++ (field, c) :: after).foldl calculateField row) =
      some (c.value (before.foldl calculateField row)) := by
  have hafter : field ∉ keys after := by
    rw [keys_append, keys_cons] at h
    exact (List.nodup_cons.1 (List.nodup_append.1 h).2.1).1
  rw [List.foldl_append, List.foldl_cons, get?_foldl_calculateField_of_notMem hafter,
    get?_calculateField, if_pos rfl]

/-! ## Formatted fields -/

theorem formatField_cons (name : String) (value : Json) (rest : Document)
    (entry : String × Format) :
    formatField ((name, value) :: rest) entry =
      if name = entry.1 then (name, entry.2.shown value) :: rest
      else (name, value) :: formatField rest entry := by
  unfold formatField
  by_cases h : name = entry.1
  · rw [get?, if_pos h, if_pos h]
    simp only
    rw [Entries.insert, if_pos h]
  · rw [get?, if_neg h, if_neg h]
    cases get? entry.1 rest with
    | none => rfl
    | some found =>
      simp only
      rw [Entries.insert, if_neg h]

theorem keys_formatField (row : Document) (entry : String × Format) :
    keys (formatField row entry) = keys row := by
  induction row with
  | nil => rfl
  | cons field rest ih =>
    obtain ⟨name, value⟩ := field
    rw [formatField_cons]
    split
    · rfl
    · rw [keys_cons, keys_cons, ih]

theorem get?_formatField (row : Document) (entry : String × Format) (key : String) :
    get? key (formatField row entry) =
      if key = entry.1 then (get? key row).map entry.2.shown else get? key row := by
  induction row with
  | nil => simp [formatField]
  | cons field rest ih =>
    obtain ⟨name, value⟩ := field
    rw [formatField_cons]
    by_cases hname : name = entry.1
    · rw [if_pos hname, get?, get?]
      by_cases hkey : name = key
      · rw [if_pos hkey, if_pos hkey, if_pos (hkey.symm.trans hname), Option.map_some]
      · rw [if_neg hkey, if_neg hkey, if_neg fun h => hkey (hname.trans h.symm)]
    · rw [if_neg hname, get?, get?, ih]
      by_cases hkey : name = key
      · rw [if_pos hkey, if_pos hkey, if_neg fun h => hname (hkey.trans h)]
      · rw [if_neg hkey, if_neg hkey]

theorem formatField_comm {entry other : String × Format} (h : entry.1 ≠ other.1) (row : Document) :
    formatField (formatField row entry) other = formatField (formatField row other) entry := by
  induction row with
  | nil => rfl
  | cons field rest ih =>
    obtain ⟨name, value⟩ := field
    rw [formatField_cons, formatField_cons]
    by_cases hentry : name = entry.1
    · have hother : name ≠ other.1 := fun heq => h (hentry.symm.trans heq)
      rw [if_pos hentry, if_neg hother, formatField_cons, formatField_cons, if_neg hother,
        if_pos hentry]
    · rw [if_neg hentry]
      by_cases hother : name = other.1
      · rw [if_pos hother, formatField_cons, formatField_cons, if_pos hother, if_neg hentry]
      · rw [if_neg hother, formatField_cons, formatField_cons, if_neg hother, if_neg hentry, ih]

variable {formatting : Entries Format}

theorem keys_foldl_formatField (formatting : Entries Format) (row : Document) :
    keys (formatting.foldl formatField row) = keys row := by
  induction formatting generalizing row with
  | nil => rfl
  | cons entry rest ih => rw [List.foldl_cons, ih, keys_formatField]

theorem get?_foldl_formatField (h : (keys formatting).Nodup) (row : Document) (key : String) :
    get? key (formatting.foldl formatField row) =
      (get? key row).map fun value =>
        ((get? key formatting).map fun f => f.shown value).getD value := by
  induction formatting generalizing row with
  | nil => simp
  | cons entry rest ih =>
    obtain ⟨field, f⟩ := entry
    rw [keys_cons, List.nodup_cons] at h
    rw [List.foldl_cons, ih h.2, get?_formatField, get?]
    by_cases hkey : field = key
    · subst hkey
      rw [get?_eq_none_of_notMem_keys h.1, if_pos rfl, if_pos rfl]
      cases get? field row <;> rfl
    · rw [if_neg (Ne.symm hkey), if_neg hkey]

theorem foldl_formatField_perm {others : Entries Format} (h : (keys formatting).Nodup)
    (hperm : others.Perm formatting) (row : Document) :
    others.foldl formatField row = formatting.foldl formatField row := by
  refine hperm.symm.foldl_eq' ?_ row |>.symm
  intro entry hentry other hother row
  by_cases hkey : entry.1 = other.1
  · rw [List.inj_on_of_nodup_map h hentry hother hkey]
  · exact formatField_comm hkey row

/-! ## Finished rows -/

/-- What becomes of the fields of a row: those that are neither calculated nor formatted stay, each
calculation fills its own field, and a format changes a value to text or not at all. -/
structure Finishes (p : PostProcess) (row out : Document) : Prop where
  keys : keys out = extended (keys row) (keys p.calculations)
  untouched : ∀ key, key ∉ Entries.keys p.calculations → key ∉ Entries.keys p.formatting →
    get? key out = get? key row
  unformatted : ∀ key, key ∉ Entries.keys p.formatting → get? key out = get? key (p.calculate row)
  formatted : ∀ key value, get? key (p.calculate row) = some value →
    get? key out = some value ∨ ∃ text, get? key out = some (.string text)
  computed : ∀ before field c after value, p.calculations = before ++ (field, c) :: after →
    c.evaluate (before.foldl calculateField row) = .ok value →
    get? field (p.calculate row) = some value
  failed : ∀ before field c after reason, p.calculations = before ++ (field, c) :: after →
    c.evaluate (before.foldl calculateField row) = .error reason →
    get? field (p.calculate row) = some .null ∧ get? field out = some .null

variable {p : PostProcess}

theorem get?_finishRow (h : (keys p.formatting).Nodup) (row : Document) (key : String) :
    get? key (p.finishRow row) = (get? key (p.calculate row)).map fun value =>
      ((get? key p.formatting).map fun f => f.shown value).getD value :=
  get?_foldl_formatField h _ _

theorem get?_calculate (h : (keys p.calculations).Nodup) {before after : Entries Calculation}
    {field : String} {c : Calculation} (hp : p.calculations = before ++ (field, c) :: after)
    (row : Document) :
    get? field (p.calculate row) = some (c.value (before.foldl calculateField row)) := by
  rw [hp] at h
  rw [calculate, hp]
  exact get?_foldl_calculateField h row

theorem finishes (hc : (keys p.calculations).Nodup) (hf : (keys p.formatting).Nodup)
    (row : Document) : p.Finishes row (p.finishRow row) := by
  refine ⟨?_, ?_, ?_, ?_, ?_, ?_⟩
  · unfold finishRow format calculate
    rw [keys_foldl_formatField, keys_foldl_calculateField]
  · intro key hkey hformat
    rw [get?_finishRow hf, get?_eq_none_of_notMem_keys hformat, calculate,
      get?_foldl_calculateField_of_notMem hkey]
    simp
  · intro key hformat
    rw [get?_finishRow hf, get?_eq_none_of_notMem_keys hformat]
    simp
  · intro key value hvalue
    rw [get?_finishRow hf, hvalue]
    cases get? key p.formatting with
    | none => exact .inl rfl
    | some f =>
      rcases f.shown_eq_or value with hsame | ⟨text, htext⟩
      · exact .inl (congrArg some hsame)
      · exact .inr ⟨text, congrArg some htext⟩
  · intro before field c after value hp hvalue
    rw [get?_calculate hc hp, Calculation.value, hvalue]
  · intro before field c after reason hp hreason
    have hnull : get? field (p.calculate row) = some .null := by
      rw [get?_calculate hc hp, Calculation.value, hreason]
    refine ⟨hnull, ?_⟩
    rw [get?_finishRow hf, hnull]
    cases get? field p.formatting with
    | none => rfl
    | some f => exact congrArg some f.shown_null

/-- Rows are finished one by one, each in its own fields, whatever the order of the formats. -/
theorem finish_frames (p : PostProcess) (hc : (keys p.calculations).Nodup)
    (hf : (keys p.formatting).Nodup) (rows : List Document) :
    (p.finish rows).length = rows.length ∧
    (∀ (index : Nat) row, rows[index]? = some row →
      (p.finish rows)[index]? = some (p.finishRow row)) ∧
    (∀ row, p.Finishes row (p.finishRow row)) ∧
    ∀ formatting : Entries Format, formatting.Perm p.formatting →
      ({ p with formatting } : PostProcess).finish rows = p.finish rows := by
  refine ⟨?_, ?_, finishes hc hf, ?_⟩
  · rw [finish_eq_map, List.length_map]
  · intro index row hrow
    rw [finish_eq_map, List.getElem?_map, hrow, Option.map_some]
  · intro formatting hperm
    rw [finish_eq_map, finish_eq_map]
    refine List.map_congr_left fun row _ => ?_
    exact foldl_formatField_perm hf hperm _

/-- A total without a formula, a mark that is given, and a note. Only the mark is no number. -/
def blankTotals : PostProcess where
  calculations := [("total", {}), ("mark", { expression := some (.bool true) })]
  formatting := [("total", { kind := .currency }), ("mark", { kind := .date })]

theorem finish_frames_of_blankTotals :
    (keys blankTotals.calculations).Nodup ∧ (keys blankTotals.formatting).Nodup ∧
      keys (blankTotals.finishRow [("note", .one)]) = ["note", "total", "mark"] ∧
      get? "note" (blankTotals.finishRow [("note", .one)]) = some .one ∧
      get? "total" (blankTotals.finishRow [("note", .one)]) = some .null ∧
      get? "mark" (blankTotals.calculate [("note", .one)]) = some (.bool true) ∧
      ({ blankTotals with formatting := blankTotals.formatting.reverse } : PostProcess).finish
        [[("note", .one)], []] = blankTotals.finish [[("note", .one)], []] := by
  have hc : (keys blankTotals.calculations).Nodup := by decide
  have hf : (keys blankTotals.formatting).Nodup := by decide
  obtain ⟨-, -, hrows, hperm⟩ := finish_frames blankTotals hc hf [[("note", .one)], []]
  have hrow := hrows [("note", .one)]
  refine ⟨hc, hf, hrow.keys.trans (by decide), hrow.untouched "note" (by decide) (by decide), ?_, ?_,
    hperm _ (List.reverse_perm _)⟩
  · exact (hrow.failed [] "total" {} _ .empty rfl rfl).2
  · exact hrow.computed [("total", {})] "mark" _ [] (.bool true) rfl rfl

end PostProcess

end ReportQuery
