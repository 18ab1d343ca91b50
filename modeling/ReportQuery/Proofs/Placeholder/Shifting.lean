import ReportQuery.Proofs.Placeholder.Rewriting

/-!
# The days of a placeholder

A placeholder is worth an instant some whole days away, or a bound of the day it falls on. It has no
text only where its number is too large or its day is out of range, and days add up.

Main statement: `Placeholder.resolve?_shifts`.
-/

namespace ReportQuery

/-! ## Bounds of a day -/

namespace Instant

variable {t : Instant}

theorem toText_startOf (d : Date) : (startOf d).toText = d.toText ++ "T00:00:00.000Z".toList := by
  have hmidnight : TimeOfDay.midnight.toText = "00:00:00.000".toList := by decide +kernel
  unfold toText
  rw [date_startOf, time_startOf, hmidnight, List.append_assoc]
  rfl

theorem toText_endOf (d : Date) : (endOf d).toText = d.toText ++ "T23:59:59.999Z".toList := by
  have hlast : TimeOfDay.lastMillisecond.toText = "23:59:59.999".toList := by decide +kernel
  unfold toText
  rw [date_endOf, time_endOf, hlast, List.append_assoc]
  rfl

theorem toText_le_of_date_eq {u : Instant} (ht : t.time.Regular) (hu : u.time.Regular)
    (hday : t.date = u.date) (h : t.time.millisecond ≤ u.time.millisecond) :
    String.ofList t.toText ≤ String.ofList u.toText := by
  rw [← String.not_lt, String.lt_iff_toList_lt, String.toList_ofList, String.toList_ofList]
  rcases Nat.lt_or_eq_of_le h with hlt | heq
  · exact List.lt_asymm (toText_lt_of_date_eq ht hu hday hlt)
  · have hsame : t.epochMillis = u.epochMillis := by rw [epochMillis, epochMillis, hday, heq]
    rw [toText_congr ht hu hsame]
    exact List.lt_irrefl _

end Instant

namespace Placeholder

/-- The three texts of a placeholder, and their order. They are written to the millisecond. -/
structure Prints (now : Instant) (token : String) (days : Int) (day : Date) (instant : Instant) :
    Prop where
  regular : instant.time.Regular
  shifted : instant.epochNanos = now.epochNanos + days * Instant.nanosPerDay
  exact : resolve? .exact now token = some (String.ofList instant.toText)
  start : resolve? .startOfDay now token =
    some (String.ofList (day.toText ++ "T00:00:00.000Z".toList))
  last : resolve? .endOfDay now token =
    some (String.ofList (day.toText ++ "T23:59:59.999Z".toList))
  start_le : (Instant.startOf day).epochMillis ≤ instant.epochMillis
  le_last : instant.epochMillis ≤ (Instant.endOf day).epochMillis
  start_text_le : String.ofList (day.toText ++ "T00:00:00.000Z".toList) ≤
    String.ofList instant.toText
  text_le_last : String.ofList instant.toText ≤
    String.ofList (day.toText ++ "T23:59:59.999Z".toList)

variable {now : Instant} {token : String} {days : Int}

theorem prints_of_names (hnow : now.time.Regular) (h : Names token days) {day : Date}
    (hday : day.epochDay = now.date.epochDay + days) :
    Prints now token days day ⟨day, now.time⟩ := by
  have hresolve := resolve?_of_names h hnow hday
  have hlast := now.time.millisecond_lt hnow
  have hinstant : (⟨day, now.time⟩ : Instant).epochMillis =
      day.epochDay * 86400000 + now.time.millisecond := rfl
  refine ⟨hnow, ?_, hresolve .exact, ?_, ?_, ?_, ?_, ?_, ?_⟩
  · unfold Instant.epochNanos Instant.nanosPerDay
    simp only
    rw [hday]
    omega
  · rw [← Instant.toText_startOf]
    exact hresolve .startOfDay
  · rw [← Instant.toText_endOf]
    exact hresolve .endOfDay
  · rw [Instant.epochMillis_startOf, hinstant]
    omega
  · rw [Instant.epochMillis_endOf, hinstant]
    omega
  · rw [← Instant.toText_startOf]
    refine Instant.toText_le_of_date_eq TimeOfDay.regular_midnight hnow rfl ?_
    rw [Instant.time_startOf, TimeOfDay.millisecond_midnight]
    exact Nat.zero_le _
  · rw [← Instant.toText_endOf]
    refine Instant.toText_le_of_date_eq hnow TimeOfDay.regular_lastMillisecond rfl ?_
    rw [Instant.time_endOf, TimeOfDay.millisecond_lastMillisecond]
    exact Nat.le_of_lt_succ hlast

theorem Names.toList (h : Names token days) :
    token.toList = ['n', 'o', 'w'] ∧ days = 0 ∨ ∃ digits : List Char,
      token.toList = ['n', 'o', 'w', '+'] ++ digits ++ ['d'] ∧ days = Text.digitsValue digits ∨
      token.toList = ['n', 'o', 'w', '-'] ++ digits ++ ['d'] ∧ days = -Text.digitsValue digits := by
  cases h with
  | now => exact .inl ⟨rfl, rfl⟩
  | later => exact .inr ⟨_, .inl ⟨String.toList_ofList, rfl⟩⟩
  | earlier => exact .inr ⟨_, .inr ⟨String.toList_ofList, rfl⟩⟩

theorem Names.unique {other : Int} (h : Names token days) (h' : Names token other) :
    days = other := by
  rcases h.toList with ⟨htoken, rfl⟩ | ⟨digits, ⟨htoken, rfl⟩ | ⟨htoken, rfl⟩⟩ <;>
    rcases h'.toList with ⟨htoken', rfl⟩ | ⟨digits', ⟨htoken', rfl⟩ | ⟨htoken', rfl⟩⟩ <;>
    simp_all

theorem resolve?_eq_none_iff (hnow : now.time.Regular) (h : Names token days) (bound : DayBound) :
    resolve? bound now token = none ↔ now.date.addDays? days = none := by
  cases hday : now.date.addDays? days with
  | some day =>
    have hresolve := resolve?_of_names h hnow (Date.addDays?_eq_some_iff.1 hday) bound
    simp [hresolve]
  | none =>
    refine iff_of_true ?_ rfl
    rw [Option.eq_none_iff_forall_ne_some]
    intro text htext
    obtain ⟨offset, instant, hnames, hinstant, -⟩ := resolve?_eq_some_iff.1 htext
    rw [h.unique hnames] at hday
    rw [Instant.addDays?_of_regular hnow, hday] at hinstant
    cases hinstant

theorem addDays?_eq_none_of_lt {d : Date} (h : maxDays < days.natAbs) : d.addDays? days = none := by
  rw [Option.eq_none_iff_forall_ne_some]
  intro day hday
  exact Nat.lt_asymm h (natAbs_lt_of_addDays? hday)

theorem resolve?_add {more : Int} {later : Instant} {further : String} (hnow : now.time.Regular)
    (hlater : later.time.Regular)
    (hmoved : later.epochNanos = now.epochNanos + more * Instant.nanosPerDay)
    (h : Names token days) (h' : Names further (days + more)) (bound : DayBound) :
    resolve? bound now further = resolve? bound later token := by
  obtain ⟨htime, hdate⟩ := Instant.eq_of_epochNanos hnow hlater hmoved
  have hsum : now.date.epochDay + (days + more) = later.date.epochDay + days := by omega
  have hday : now.date.addDays? (days + more) = later.date.addDays? days := by
    rw [Date.addDays?, hsum, Date.addDays?]
  cases hreach : later.date.addDays? days with
  | none =>
    rw [(resolve?_eq_none_iff hlater h bound).2 hreach]
    exact (resolve?_eq_none_iff hnow h' bound).2 (hday.trans hreach)
  | some day =>
    have heq := Date.addDays?_eq_some_iff.1 hreach
    rw [resolve?_of_names h hlater heq bound, resolve?_of_names h' hnow (heq.trans hsum.symm) bound,
      htime]

/-- A placeholder shifts the clock by its days: in seconds, on the calendar, and one after another. -/
theorem resolve?_shifts (hnow : now.time.Regular) (h : Names token days) :
    (∀ bound, resolve? bound now token = none ↔ maxDays < days.natAbs ∨
      ∀ c : Civil, c.InRange → ¬c.IsDaysAfter days now.date.civil) ∧
    (∀ day : Date, day.civil.IsDaysAfter days now.date.civil →
      ∃ instant, Prints now token days day instant) ∧
    ∀ bound more later further, later.time.Regular →
      later.epochNanos = now.epochNanos + more * Instant.nanosPerDay →
      Names further (days + more) → resolve? bound now further = resolve? bound later token := by
  refine ⟨fun bound => ?_, ?_, ?_⟩
  · rw [resolve?_eq_none_iff hnow h, ← Date.addDays?_eq_none_iff]
    exact ⟨.inr, fun hnone => hnone.elim addDays?_eq_none_of_lt id⟩
  · intro day hday
    exact ⟨_, prints_of_names hnow h (Date.isDaysAfter_civil_iff.1 hday)⟩
  · intro bound more later further hlater hmoved hfurther
    exact resolve?_add hnow hlater hmoved h hfurther bound

/-- The last millisecond of 2024-03-01. -/
def lateOnFirstOfMarch : Instant := .endOf ⟨19783, by decide, by decide⟩

-- One day before it is 29 February, and 366 days before that is 28 February of the year before.
theorem resolve?_shifts_of_leap_day :
    lateOnFirstOfMarch.time.Regular ∧ Names "now-1d" (-1) ∧ Names "now-367d" (-1 + -366) ∧
      (∃ instant, Prints lateOnFirstOfMarch "now-1d" (-1) ⟨19782, by decide, by decide⟩ instant) ∧
      resolve? .exact lateOnFirstOfMarch "now-367d" =
        resolve? .exact ⟨⟨19417, by decide, by decide⟩, lateOnFirstOfMarch.time⟩ "now-1d" := by
  have hnames : Names "now-1d" (-1) := (offset?_eq_some_iff.1 (by decide +kernel)).1
  have hfurther : Names "now-367d" (-1 + -366) := (offset?_eq_some_iff.1 (by decide +kernel)).1
  have hnow : lateOnFirstOfMarch.time.Regular := by decide
  obtain ⟨-, hprints, hadd⟩ := resolve?_shifts hnow hnames
  exact ⟨hnow, hnames, hfurther, hprints _ (by decide +kernel),
    hadd .exact (-366) _ _ hnow (by decide) hfurther⟩

end Placeholder

end ReportQuery
