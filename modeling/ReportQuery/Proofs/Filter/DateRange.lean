import ReportQuery.Filter.Fragments
import ReportQuery.Proofs.Calendar.DayShift
import ReportQuery.Proofs.Resolution

/-!
# Ranges of dates

A range filter keeps exactly the instants of its days, although the store compares the texts of
instants: its operators hold the first millisecond of the first day and the last one of the last.

Main statement: `range_selects_days`.
-/

namespace ReportQuery

/-! ## Days that a text names -/

namespace Placeholder

/-- A placeholder and the days by which it is ahead of now. -/
inductive Names : String → Int → Prop
  | now : Names "now" 0
  | later {digits : List Char} (hne : digits ≠ []) (h : digits.all Text.isDigit = true) :
    Names (String.ofList (['n', 'o', 'w', '+'] ++ digits ++ ['d'])) (Text.digitsValue digits)
  | earlier {digits : List Char} (hne : digits ≠ []) (h : digits.all Text.isDigit = true) :
    Names (String.ofList (['n', 'o', 'w', '-'] ++ digits ++ ['d'])) (-(Text.digitsValue digits))

theorem days?_eq_some_iff {text : List Char} {n : Nat} :
    days? text = some n ↔ ∃ digits, text = digits ++ ['d'] ∧ digits ≠ [] ∧
      digits.all Text.isDigit = true ∧ Text.digitsValue digits = n ∧ n ≤ maxDays := by
  constructor
  · intro h
    simp only [days?, Text.readNat?, Option.bind_eq_bind, Option.bind_eq_some_iff,
      Option.ite_none_right_eq_some, Option.some.injEq] at h
    obtain ⟨_, ⟨⟨hne, hall⟩, rfl⟩, ⟨hrest, hmax⟩, rfl⟩ := h
    refine ⟨text.takeWhile Text.isDigit, ?_, hne, hall, rfl, hmax⟩
    rw [← hrest]
    exact (List.prefix_iff_eq_append.1 (List.takeWhile_prefix _)).symm
  · rintro ⟨digits, rfl, hne, hall, rfl, hmax⟩
    have htake : (digits ++ ['d']).takeWhile Text.isDigit = digits :=
      Text.takeWhile_append hall (Text.apart_cons.2 (by decide))
    have hread : Text.readNat? digits = some (Text.digitsValue digits) := by
      unfold Text.readNat?
      rw [if_pos ⟨hne, hall⟩]
    unfold days?
    simp [htake, hread, hmax]

theorem offset?_eq_some_iff {token : String} {offset : Int} :
    offset? token = some offset ↔ Names token offset ∧ offset.natAbs ≤ maxDays := by
  constructor
  · intro h
    simp only [offset?, Option.bind_eq_bind, Option.bind_eq_some_iff,
      Text.afterPrefix?_eq_some_iff] at h
    obtain ⟨rest, htoken, h⟩ := h
    rw [← String.ofList_toList (s := token), htoken]
    split at h
    · cases h
      exact ⟨.now, Nat.zero_le _⟩
    · simp only [Option.map_eq_some_iff, Option.bind_eq_some_iff, Option.pure_def,
        Option.some.injEq] at h
      obtain ⟨_, ⟨n, hdays, rfl⟩, rfl⟩ := h
      obtain ⟨digits, rfl, hne, hall, rfl, hmax⟩ := days?_eq_some_iff.1 hdays
      exact ⟨.later hne hall, by simpa using hmax⟩
    · simp only [Option.map_eq_some_iff, Option.bind_eq_some_iff, Option.pure_def,
        Option.some.injEq] at h
      obtain ⟨_, ⟨n, hdays, rfl⟩, rfl⟩ := h
      obtain ⟨digits, rfl, hne, hall, rfl, hmax⟩ := days?_eq_some_iff.1 hdays
      exact ⟨.earlier hne hall, by simpa using hmax⟩
    · cases h
  · rintro ⟨hnames, hmax⟩
    cases hnames with
    | now => rfl
    | later hne hall =>
      have hdays := days?_eq_some_iff.2 ⟨_, rfl, hne, hall, rfl, by simpa using hmax⟩
      simp [offset?, Text.afterPrefix?, hdays]
    | earlier hne hall =>
      have hdays := days?_eq_some_iff.2 ⟨_, rfl, hne, hall, rfl, by simpa using hmax⟩
      simp [offset?, Text.afterPrefix?, hdays]

theorem natAbs_lt_of_addDays? {d e : Date} {days : Int} (h : d.addDays? days = some e) :
    days.natAbs < maxDays := by
  have hmoved := Date.addDays?_eq_some_iff.1 h
  have hfirst := d.first_le
  have hlast := d.le_last
  have hfirst' := e.first_le
  have hlast' := e.le_last
  unfold maxDays
  unfold Date.firstDay Date.lastDay at *
  omega

theorem resolve?_of_names {token : String} {offset : Int} {now : Instant} {day : Date}
    (h : Names token offset) (hnow : now.time.Regular)
    (hday : day.epochDay = now.date.epochDay + offset) (bound : DayBound) :
    resolve? bound now token = some (String.ofList (bound.apply ⟨day, now.time⟩).toText) := by
  have hdate := Date.addDays?_eq_some_iff.2 hday
  have hoffset : offset? token = some offset :=
    offset?_eq_some_iff.2 ⟨h, Nat.le_of_lt (natAbs_lt_of_addDays? hdate)⟩
  have hadd : now.addDays? offset = some ⟨day, now.time⟩ := by
    rw [Instant.addDays?_of_regular hnow, hdate, Option.map_some]
  unfold resolve?
  rw [hoffset, Option.bind_eq_bind, Option.bind_some, hadd]
  rfl

theorem resolve?_toText (d : Date) (bound : DayBound) (now : Instant) :
    resolve? bound now (String.ofList d.toText) = none := by
  obtain ⟨c, rest, hcons, hc⟩ := d.exists_toText_eq_cons
  rw [hcons]
  exact resolve?_of_offset?_eq_none (offset?_of_head_ne hc rest) bound now

end Placeholder

/-- The day that one bound of a range names: that of a placeholder, or a date as it is written. -/
inductive NamesDay (now : Instant) : String → Date → Prop
  | relative {token : String} {offset : Int} {day : Date} (h : Placeholder.Names token offset)
    (hday : day.epochDay = now.date.epochDay + offset) : NamesDay now token day
  | written (day : Date) : NamesDay now (String.ofList day.toText) day

theorem NamesDay.ne_empty {now : Instant} {raw : String} {day : Date} (h : NamesDay now raw day) :
    raw ≠ "" := by
  cases h with
  | relative h _ => cases h <;> simp
  | written => simp [Date.toText_ne_nil]

theorem resolveRangeBound_of_names {now : Instant} {raw : String} {day : Date} {bound : DayBound}
    (h : NamesDay now raw day) (hnow : now.time.Regular) (hyear : day.FourDigitYear)
    (hbound : bound ≠ .exact) :
    resolveRangeBound bound now raw = String.ofList (bound.apply ⟨day, now.time⟩).toText := by
  unfold resolveRangeBound
  cases h with
  | relative h hday => rw [Placeholder.resolve?_of_names h hnow hday]
  | written =>
    rw [Placeholder.resolve?_toText day, String.toList_ofList, Date.ofText?_toText hyear]
    cases bound with
    | startOfDay | endOfDay => rfl
    | exact => exact absurd rfl hbound

/-! ## Days of a preset -/

namespace DatePreset

/-- The first and the last day of a preset: those of the year, or from the first day of the quarter
or the month until today. -/
def Spans (today first last : Date) : DatePreset → Prop
  | yearToDate => first.civil = ⟨today.civil.year, 1, 1⟩ ∧ last.civil = ⟨today.civil.year, 12, 31⟩
  | quarterToDate => last = today ∧ ∃ quarter,
      first.civil = ⟨today.civil.year, 3 * quarter + 1, 1⟩ ∧
      3 * quarter < today.civil.month ∧ today.civil.month ≤ 3 * quarter + 3
  | monthToDate => last = today ∧ first.civil = ⟨today.civil.year, today.civil.month, 1⟩

theorem dates_of_spans {preset : DatePreset} {today first last : Date}
    (h : preset.Spans today first last) : preset.dates today = (first, last) := by
  unfold dates
  cases preset with
  | yearToDate =>
    obtain ⟨hfirst, hlast⟩ := h
    simp only [← hfirst, ← hlast, Date.ofCivil?_civil, Option.getD_some]
  | quarterToDate =>
    obtain ⟨rfl, quarter, hfirst, hlow, hhigh⟩ := h
    have hmonth : (last.civil.month - 1) / 3 * 3 + 1 = 3 * quarter + 1 := by omega
    simp only [hmonth, ← hfirst, Date.ofCivil?_civil, Option.getD_some]
  | monthToDate =>
    obtain ⟨rfl, hfirst⟩ := h
    simp only [← hfirst, Date.ofCivil?_civil, Option.getD_some]

theorem exists_spans (preset : DatePreset) (today : Date) :
    ∃ first last, preset.Spans today first last := by
  have hvalid := today.valid_civil
  obtain ⟨hlow, hhigh⟩ := today.year_bounds
  have hfirst {month : Nat} (h1 : 1 ≤ month) (h12 : month ≤ 12) :
      ∃ d : Date, d.civil = ⟨today.civil.year, month, 1⟩ :=
    Date.exists_civil_eq (Civil.valid_firstOfMonth _ h1 h12) hlow hhigh
  cases preset with
  | yearToDate =>
    obtain ⟨first, h⟩ := hfirst (by decide : 1 ≤ 1) (by decide)
    obtain ⟨last, h'⟩ := Date.exists_civil_eq (Civil.valid_lastOfYear today.civil.year) hlow hhigh
    exact ⟨first, last, h, h'⟩
  | quarterToDate =>
    have hmonth := hvalid.month_le
    have hpos := hvalid.1
    obtain ⟨first, h⟩ := hfirst
      (show 1 ≤ 3 * ((today.civil.month - 1) / 3) + 1 by omega) (by omega)
    exact ⟨first, today, rfl, _, h, by omega, by omega⟩
  | monthToDate =>
    obtain ⟨first, h⟩ := hfirst hvalid.1 hvalid.month_le
    exact ⟨first, today, rfl, h⟩

theorem ofName?_of_sameIgnoringCase {name : String} {preset : DatePreset}
    (h : Text.sameIgnoringCase name.toList preset.name.toList = true) :
    ofName? name = some preset := by
  unfold Text.sameIgnoringCase at h
  unfold ofName?
  rw [of_decide_eq_true h]
  cases preset <;> decide

end DatePreset

/-! ## Ranges -/

namespace Filter

/-- A bound of a written range: the day it names, or none if it is left out. -/
def NamesBound (now : Instant) (range : Document) (key : String) : Option Date → Prop
  | none => Entries.get? key range = none
  | some day => ∃ raw, Entries.get? key range = some (.string raw) ∧ NamesDay now raw day

/-- The first and last day that a range asks for; a bound that is left out is no limit. -/
inductive AsksFor (now : Instant) : Json → Option Date → Option Date → Prop
  | preset {name : String} {preset : DatePreset} {first last : Date}
    (hname : Text.sameIgnoringCase name.toList preset.name.toList = true)
    (h : preset.Spans now.date first last) : AsksFor now (.string name) (some first) (some last)
  | bounds {range : Document} {first? last? : Option Date}
    (hfirst : NamesBound now range "start" first?) (hlast : NamesBound now range "end" last?)
    (hsome : first?.isSome ∨ last?.isSome) : AsksFor now (.object range) first? last?

/-- A text passes an operator of a range as texts are compared. -/
def Passes (text : String) : String × Json → Prop
  | ("$gte", .string bound) => bound ≤ text
  | ("$lte", .string bound) => text ≤ bound
  | _ => False

/-- The operators of a range of days. -/
def dayOperators (first? last? : Option Date) : Document :=
  (first?.map fun day => ("$gte", .string (String.ofList (Instant.startOf day).toText))).toList ++
    (last?.map fun day => ("$lte", .string (String.ofList (Instant.endOf day).toText))).toList

section Operators

variable {now : Instant} {range : Document} {key : String} {day? : Option Date}

theorem rangeBound_of_names {bound : DayBound} (operator : String) (hnow : now.time.Regular)
    (h : NamesBound now range key day?) (hyear : ∀ day ∈ day?, day.FourDigitYear)
    (hbound : bound ≠ .exact) :
    rangeBound now range key operator bound = (day?.map fun day =>
      (operator, .string (String.ofList (bound.apply ⟨day, now.time⟩).toText))).toList := by
  unfold rangeBound
  cases day? with
  | none => rw [show Entries.get? key range = none from h]; rfl
  | some day =>
    obtain ⟨raw, hraw, hday⟩ := h
    rw [hraw]
    simp [isBlank, hday.ne_empty, resolveRangeBound_of_names hday hnow (hyear day rfl) hbound]

theorem dateRange?_of_asksFor {value : Json} {first? last? : Option Date} (hnow : now.time.Regular)
    (h : AsksFor now value first? last?) (hfirst : ∀ day ∈ first?, day.FourDigitYear)
    (hlast : ∀ day ∈ last?, day.FourDigitYear) :
    dateRange? now value = some (.operators (dayOperators first? last?)) := by
  unfold dateRange?
  cases h with
  | preset hname h =>
    simp only [DatePreset.ofName?_of_sameIgnoringCase hname, Option.map_some, DatePreset.range,
      DatePreset.dates_of_spans h]
    rfl
  | @bounds range _ _ hstart hend hsome =>
    have hops : rangeBound now range "start" "$gte" .startOfDay ++
        rangeBound now range "end" "$lte" .endOfDay = dayOperators first? last? := by
      rw [rangeBound_of_names "$gte" hnow hstart hfirst (by decide),
        rangeBound_of_names "$lte" hnow hend hlast (by decide)]
      rfl
    simp only [hops]
    rw [if_neg]
    cases first? <;> cases last? <;> simp [dayOperators] at hsome ⊢

end Operators

/-! ## Selected instants -/

section Selection

variable {t : Instant} {day : Date}

theorem startOf_toText_le_iff (ht : t.time.Regular) (hty : t.date.FourDigitYear)
    (hday : day.FourDigitYear) :
    String.ofList (Instant.startOf day).toText ≤ String.ofList t.toText ↔
      day.epochDay ≤ t.date.epochDay := by
  have hlast := t.time.millisecond_lt ht
  have hstart : (Instant.startOf day).time.Regular := TimeOfDay.regular_midnight
  rw [Instant.toText_le_toText_iff hstart ht hday hty,
    Instant.epochMillis_startOf, Instant.epochMillis]
  omega

theorem toText_le_endOf_iff (ht : t.time.Regular) (hty : t.date.FourDigitYear)
    (hday : day.FourDigitYear) :
    String.ofList t.toText ≤ String.ofList (Instant.endOf day).toText ↔
      t.date.epochDay ≤ day.epochDay := by
  have hlast := t.time.millisecond_lt ht
  have hend : (Instant.endOf day).time.Regular := TimeOfDay.regular_lastMillisecond
  rw [Instant.toText_le_toText_iff ht hend hty hday,
    Instant.epochMillis_endOf, Instant.epochMillis]
  omega

end Selection

/-- A range filter has operators, and an instant passes all of them exactly when its day is one of
the days that are asked for. -/
theorem range_selects_days {now : Instant} {value : Json} {first? last? : Option Date}
    (hnow : now.time.Regular) (h : AsksFor now value first? last?)
    (hfirst : ∀ day ∈ first?, day.FourDigitYear) (hlast : ∀ day ∈ last?, day.FourDigitYear) :
    ∃ ops, predicate? now (Key.ofText dateRangeField) value = some (.operators ops) ∧
      ∀ t : Instant, t.time.Regular → t.date.FourDigitYear →
        ((∀ op ∈ ops, Passes (String.ofList t.toText) op) ↔
          (∀ day ∈ first?, day.epochDay ≤ t.date.epochDay) ∧
            ∀ day ∈ last?, t.date.epochDay ≤ day.epochDay) := by
  refine ⟨dayOperators first? last?, ?_, ?_⟩
  · have hkey : Key.ofText dateRangeField = ⟨dateRangeField, .eq⟩ := by rfl
    unfold predicate?
    rw [hkey, if_pos ⟨rfl, rfl⟩, dateRange?_of_asksFor hnow h hfirst hlast]
    rfl
  · intro t ht hty
    simp only [dayOperators, List.mem_append, Option.mem_toList, Option.map_eq_some_iff, or_imp,
      forall_and, forall_exists_index, and_imp, forall_apply_eq_imp_iff₂]
    refine and_congr ?_ ?_
    · exact forall₂_congr fun day hday => startOf_toText_le_iff ht hty (hfirst day hday)
    · exact forall₂_congr fun day hday => toText_le_endOf_iff ht hty (hlast day hday)

theorem range_selects_days_of_leap_year :
    let now : Instant := .startOf ⟨19787, by decide, by decide⟩
    let first : Date := ⟨19782, by decide, by decide⟩
    let last : Date := ⟨20088, by decide, by decide⟩
    let value : Json := .object [("start", .string "now-5d"), ("end", .string "2024-12-31")]
    AsksFor now value (some first) (some last) ∧
      ∃ ops, predicate? now (Key.ofText dateRangeField) value = some (.operators ops) ∧
        ∀ t : Instant, t.time.Regular → t.date.FourDigitYear →
          ((∀ op ∈ ops, Passes (String.ofList t.toText) op) ↔
            (∀ day ∈ some first, day.epochDay ≤ t.date.epochDay) ∧
              ∀ day ∈ some last, t.date.epochDay ≤ day.epochDay) := by
  -- On 2024-03-05, five days ago is 29 February.
  intro now first last value
  have hnames : Placeholder.Names "now-5d" (-5) :=
    (Placeholder.offset?_eq_some_iff.1 (by decide +kernel)).1
  have hfirst : NamesDay now "now-5d" first := .relative hnames (by decide)
  have hlast : NamesDay now "2024-12-31" last := by
    rw [show "2024-12-31" = String.ofList last.toText by decide +kernel]
    exact .written last
  have hasks : AsksFor now value (some first) (some last) :=
    .bounds ⟨_, rfl, hfirst⟩ ⟨_, rfl, hlast⟩ (.inl rfl)
  refine ⟨hasks, range_selects_days TimeOfDay.regular_midnight hasks ?_ ?_⟩
  · simp only [Option.mem_def, Option.some.injEq, forall_eq']
    decide
  · simp only [Option.mem_def, Option.some.injEq, forall_eq']
    decide

end Filter

end ReportQuery
