import Mathlib.Data.String.Basic
import ReportQuery.Proofs.Calendar.WrittenDate

/-!
# The order of written instants

Numbers of one width, dates of years with four digits and instants of such dates stand in the order
of texts as they stand in time. A store that compares texts thereby compares times.

Main statement: `Instant.toText_le_toText_iff`.
-/

namespace ReportQuery

/-! ## Dates -/

namespace Date

theorem toText_append_lt {d e : Date} (hd : d.FourDigitYear) (he : e.FourDigitYear)
    (h : d.epochDay < e.epochDay) (rest rest' : List Char) :
    d.toText ++ rest < e.toText ++ rest' := by
  rw [toText_eq hd, toText_eq he]
  simp only [List.append_assoc, List.cons_append]
  rcases before_of_lt h with hyear | ⟨hyear, hlater | ⟨hsame, hlater⟩⟩
  · have := hd.1
    exact Text.padded_append_lt (by omega) (year_lt he) _ _
  · rw [hyear]
    refine Text.append_cons_lt _ _ ?_
    exact Text.padded_append_lt hlater e.month_lt _ _
  · rw [hyear, hsame]
    refine Text.append_cons_lt _ _ ?_
    refine Text.append_cons_lt _ _ ?_
    exact Text.padded_append_lt hlater e.day_lt _ _

end Date

/-! ## Times of day -/

namespace TimeOfDay

/-- The time is not in a leap second. -/
def Regular (t : TimeOfDay) : Prop := t.nanosecond < 1000000000

instance (t : TimeOfDay) : Decidable t.Regular := inferInstanceAs (Decidable (_ < _))

/-- The milliseconds of the day that are over. -/
def millisecond (t : TimeOfDay) : Nat := t.second * 1000 + t.nanosecond / 1000000

theorem regular_midnight : midnight.Regular := by decide

theorem regular_lastMillisecond : lastMillisecond.Regular := by decide

theorem millisecond_midnight : midnight.millisecond = 0 := rfl

theorem millisecond_lastMillisecond : lastMillisecond.millisecond = 86399999 := by decide

theorem toText_eq {t : TimeOfDay} (h : t.Regular) :
    t.toText = Text.padded 2 (t.second / 3600) ++ ':' :: Text.padded 2 (t.second / 60 % 60) ++
      ':' :: Text.padded 2 (t.second % 60) ++ '.' :: Text.padded 3 (t.nanosecond / 1000000) := by
  unfold toText shown
  rw [if_pos (show t.nanosecond < 1000000000 from h)]

theorem toText_append_lt {t u : TimeOfDay} (ht : t.Regular) (hu : u.Regular)
    (h : t.millisecond < u.millisecond) (rest rest' : List Char) :
    t.toText ++ rest < u.toText ++ rest' := by
  have hday := u.second_lt
  unfold Regular at ht hu
  -- The clocks differ first in the hour, the minute, the second or the millisecond.
  have hfirst : t.second / 3600 < u.second / 3600 ∨ t.second / 3600 = u.second / 3600 ∧
      (t.second / 60 % 60 < u.second / 60 % 60 ∨ t.second / 60 % 60 = u.second / 60 % 60 ∧
        (t.second % 60 < u.second % 60 ∨ t.second % 60 = u.second % 60 ∧
          t.nanosecond / 1000000 < u.nanosecond / 1000000)) := by
    unfold millisecond at h
    omega
  rw [toText_eq ht, toText_eq hu]
  simp only [List.append_assoc, List.cons_append]
  have hten : power 10 (1 + 1) = 100 := rfl
  have hthousand : power 10 (2 + 1) = 1000 := rfl
  rcases hfirst with hhour | ⟨hhour, hminute | ⟨hminute, hsecond | ⟨hsecond, hmilli⟩⟩⟩
  · exact Text.padded_append_lt hhour (by omega) _ _
  · rw [hhour]
    refine Text.append_cons_lt _ _ ?_
    exact Text.padded_append_lt hminute (by omega) _ _
  · rw [hhour, hminute]
    refine Text.append_cons_lt _ _ ?_
    refine Text.append_cons_lt _ _ ?_
    exact Text.padded_append_lt hsecond (by omega) _ _
  · rw [hhour, hminute, hsecond]
    refine Text.append_cons_lt _ _ ?_
    refine Text.append_cons_lt _ _ ?_
    refine Text.append_cons_lt _ _ ?_
    exact Text.padded_append_lt hmilli (by omega) _ _

theorem toText_congr {t u : TimeOfDay} (ht : t.Regular) (hu : u.Regular)
    (h : t.millisecond = u.millisecond) : t.toText = u.toText := by
  unfold Regular at ht hu
  unfold millisecond at h
  have hsecond : t.second = u.second := by omega
  have hmilli : t.nanosecond / 1000000 = u.nanosecond / 1000000 := by omega
  rw [toText_eq ht, toText_eq hu, hsecond, hmilli]

theorem millisecond_lt {t : TimeOfDay} (h : t.Regular) : t.millisecond < 86400000 := by
  have := t.second_lt
  unfold Regular at h
  unfold millisecond
  omega

end TimeOfDay

/-! ## Instants -/

namespace Instant

/-- The whole milliseconds since 1970. -/
def epochMillis (t : Instant) : Int := t.date.epochDay * 86400000 + t.time.millisecond

@[simp] theorem date_startOf (d : Date) : (startOf d).date = d := rfl

@[simp] theorem time_startOf (d : Date) : (startOf d).time = .midnight := rfl

@[simp] theorem date_endOf (d : Date) : (endOf d).date = d := rfl

@[simp] theorem time_endOf (d : Date) : (endOf d).time = .lastMillisecond := rfl

theorem epochMillis_startOf (d : Date) : (startOf d).epochMillis = d.epochDay * 86400000 := by
  simp [epochMillis, TimeOfDay.millisecond_midnight]

theorem epochMillis_endOf (d : Date) :
    (endOf d).epochMillis = d.epochDay * 86400000 + 86399999 := by
  simp [epochMillis, TimeOfDay.millisecond_lastMillisecond]

variable {t u : Instant}

theorem toText_lt_of_date_eq (ht : t.time.Regular) (hu : u.time.Regular) (hday : t.date = u.date)
    (h : t.time.millisecond < u.time.millisecond) : t.toText < u.toText := by
  unfold toText
  rw [hday]
  simp only [List.append_assoc, List.cons_append]
  refine Text.append_cons_lt _ _ ?_
  exact TimeOfDay.toText_append_lt ht hu h _ _

theorem toText_lt_of_epochMillis_lt (ht : t.time.Regular) (hu : u.time.Regular)
    (hty : t.date.FourDigitYear) (huy : u.date.FourDigitYear) (h : t.epochMillis < u.epochMillis) :
    t.toText < u.toText := by
  have hlast := u.time.millisecond_lt hu
  unfold epochMillis at h
  by_cases hday : t.date.epochDay < u.date.epochDay
  · unfold toText
    simp only [List.append_assoc, List.cons_append]
    exact Date.toText_append_lt hty huy hday _ _
  · have hsame : t.date = u.date := by
      cases hd : t.date
      cases he : u.date
      simp only [hd, he, Date.mk.injEq] at h hday ⊢
      omega
    rw [hsame] at h
    exact toText_lt_of_date_eq ht hu hsame (by omega)

theorem toText_congr (ht : t.time.Regular) (hu : u.time.Regular)
    (h : t.epochMillis = u.epochMillis) : t.toText = u.toText := by
  have htl := t.time.millisecond_lt ht
  have hul := u.time.millisecond_lt hu
  unfold epochMillis at h
  have hday : t.date = u.date := by
    cases hd : t.date
    cases he : u.date
    simp only [hd, he, Date.mk.injEq] at h ⊢
    omega
  unfold toText
  rw [hday, TimeOfDay.toText_congr ht hu (by rw [hday] at h; omega)]

/-- Instants are written in the order of time, up to the millisecond. -/
theorem toText_le_toText_iff (ht : t.time.Regular) (hu : u.time.Regular)
    (hty : t.date.FourDigitYear) (huy : u.date.FourDigitYear) :
    String.ofList t.toText ≤ String.ofList u.toText ↔ t.epochMillis ≤ u.epochMillis := by
  rw [← String.not_lt, ← Int.not_lt, String.lt_iff_toList_lt, String.toList_ofList,
    String.toList_ofList, not_iff_not]
  constructor
  · intro h
    by_contra hle
    rcases Int.lt_or_eq_of_le (Int.not_lt.1 hle) with hlt | heq
    · exact List.lt_asymm h (toText_lt_of_epochMillis_lt ht hu hty huy hlt)
    · rw [toText_congr ht hu heq] at h
      exact List.lt_irrefl _ h
  · exact toText_lt_of_epochMillis_lt hu ht huy hty

end Instant

end ReportQuery
