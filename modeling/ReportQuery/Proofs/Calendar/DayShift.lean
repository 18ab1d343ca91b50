import Mathlib.Logic.Function.Iterate
import ReportQuery.Proofs.Calendar.TextOrder

/-!
# Days before and after

The calendar goes on by one day at a time, over the ends of months and years. Dates that are some
steps apart have day numbers that far apart, and an instant moves by whole days of 86400 seconds.

Main statements: `Civil.isDaysAfter_iff`, `Date.addDays?_eq_none_iff`, `Instant.addDays?_of_regular`.
-/

namespace ReportQuery

/-! ## The next day -/

namespace Civil

def daysInMonth (c : Civil) : Nat := ((monthLengths c.year)[c.month - 1]?).getD 0

/-- The day after a date: in its month, or else the first one of the next month or year. -/
def next (c : Civil) : Civil :=
  if c.day < c.daysInMonth then { c with day := c.day + 1 }
  else if c.month < 12 then ⟨c.year, c.month + 1, 1⟩
  else ⟨c.year + 1, 1, 1⟩

/-- The date is some days after another one, or before it. -/
def IsDaysAfter (days : Int) (c other : Civil) : Prop :=
  next^[days.toNat] other = next^[(-days).toNat] c

instance (days : Int) (c other : Civil) : Decidable (c.IsDaysAfter days other) :=
  inferInstanceAs (Decidable (_ = _))

theorem sum_take_succ {lengths : List Nat} {past length : Nat} (h : lengths[past]? = some length) :
    (lengths.take (past + 1)).foldr (· + ·) 0 = (lengths.take past).foldr (· + ·) 0 + length := by
  induction lengths generalizing past with
  | nil => simp at h
  | cons head rest ih =>
    cases past with
    | zero =>
      rw [List.getElem?_cons_zero, Option.some.injEq] at h
      simp [h]
    | succ past =>
      rw [List.getElem?_cons_succ] at h
      have := ih h
      simp only [List.take_succ_cons, List.foldr_cons] at *
      omega

variable {c other : Civil}

theorem Valid.daysBeforeMonth_succ (h : c.Valid) :
    daysBeforeMonth c.year (c.month + 1) = daysBeforeMonth c.year c.month + c.daysInMonth := by
  obtain ⟨length, hlength, -⟩ := h.length
  have hmonth := h.1
  have hsum := sum_take_succ hlength
  rw [Nat.sub_add_cancel hmonth] at hsum
  unfold daysBeforeMonth daysInMonth
  rw [hlength, Option.getD_some, Nat.add_sub_cancel, hsum]

theorem valid_next (h : c.Valid) : c.next.Valid := by
  have hmonth := h.1
  unfold next
  split
  · next hday => exact ⟨hmonth, Nat.le_add_left 1 _, hday⟩
  · split
    · next hlast => exact valid_firstOfMonth _ (by omega) (by omega)
    · exact valid_firstOfMonth _ (by decide) (by decide)

theorem epochDay_next (h : c.Valid) : c.next.epochDay = c.epochDay + 1 := by
  have hlength : c.day ≤ c.daysInMonth := h.2.2
  have hday := h.2.1
  have hmonths := h.daysBeforeMonth_succ
  unfold next epochDay
  split
  · simp only
    omega
  · split
    · simp only
      omega
    · -- December: the days of all its months are those of the year.
      have hlast := h.month_le
      have hyear : daysBeforeMonth c.year (12 + 1) = daysInYear c.year := sum_monthLengths c.year
      have hdecember : c.month = 12 := by omega
      have hjanuary : daysBeforeMonth (c.year + 1) 1 = 0 := rfl
      rw [hdecember, hyear] at hmonths
      simp only [daysBeforeYear_succ, hjanuary, hdecember]
      omega

theorem valid_iterate_next (h : c.Valid) (steps : Nat) : (next^[steps] c).Valid := by
  induction steps with
  | zero => exact h
  | succ steps ih =>
    rw [Function.iterate_succ_apply']
    exact valid_next ih

theorem epochDay_iterate_next (h : c.Valid) (steps : Nat) :
    (next^[steps] c).epochDay = c.epochDay + steps := by
  induction steps with
  | zero => exact (Int.add_zero _).symm
  | succ steps ih =>
    rw [Function.iterate_succ_apply', epochDay_next (valid_iterate_next h steps), ih]
    omega

theorem isDaysAfter_iff (h : c.Valid) (hother : other.Valid) {days : Int} :
    c.IsDaysAfter days other ↔ c.epochDay = other.epochDay + days := by
  have hlater := epochDay_iterate_next hother days.toNat
  have hearlier := epochDay_iterate_next h (-days).toNat
  unfold IsDaysAfter
  constructor
  · intro heq
    rw [heq, hearlier] at hlater
    omega
  · intro heq
    refine eq_of_epochDay_eq (valid_iterate_next hother _) (valid_iterate_next h _) ?_
    rw [hlater, hearlier]
    omega

/-- Dates from -262143-01-01 to 262142-12-31. -/
def InRange (c : Civil) : Prop := c.Valid ∧ -262143 ≤ c.year ∧ c.year ≤ 262142

theorem inRange_iff : c.InRange ↔ ∃ d : Date, d.civil = c := by
  constructor
  · rintro ⟨hvalid, hlow, hhigh⟩
    exact Date.exists_civil_eq hvalid hlow hhigh
  · rintro ⟨d, rfl⟩
    exact ⟨d.valid_civil, d.year_bounds⟩

end Civil

/-! ## Dates -/

namespace Date

variable {d e : Date} {days : Int}

theorem isDaysAfter_civil_iff :
    e.civil.IsDaysAfter days d.civil ↔ e.epochDay = d.epochDay + days := by
  rw [Civil.isDaysAfter_iff e.valid_civil d.valid_civil, epochDay_civil, epochDay_civil]

theorem addDays?_eq_some_iff : d.addDays? days = some e ↔ e.epochDay = d.epochDay + days :=
  ofEpochDay?_eq_some_iff

theorem addDays?_eq_none_iff :
    d.addDays? days = none ↔ ∀ c : Civil, c.InRange → ¬c.IsDaysAfter days d.civil := by
  rw [Option.eq_none_iff_forall_ne_some]
  constructor
  · intro h c hc hdays
    obtain ⟨e, rfl⟩ := Civil.inRange_iff.1 hc
    exact h e (addDays?_eq_some_iff.2 (isDaysAfter_civil_iff.1 hdays))
  · intro h e he
    refine h e.civil (Civil.inRange_iff.2 ⟨e, rfl⟩) ?_
    exact isDaysAfter_civil_iff.2 (addDays?_eq_some_iff.1 he)

end Date

/-! ## Instants -/

namespace Instant

variable {t u : Instant}

/-- The nanoseconds since 1970, each day having 86400 seconds. -/
def epochNanos (t : Instant) : Int :=
  (t.date.epochDay * 86400 + t.time.second) * 1000000000 + t.time.nanosecond

def nanosPerDay : Int := 86400000000000

theorem eq_of_epochNanos {days : Int} (ht : t.time.Regular) (hu : u.time.Regular)
    (h : u.epochNanos = t.epochNanos + days * nanosPerDay) :
    u.time = t.time ∧ u.date.epochDay = t.date.epochDay + days := by
  obtain ⟨d, second, nanosecond, hsecond, _⟩ := t
  obtain ⟨e, second', nanosecond', hsecond', _⟩ := u
  unfold TimeOfDay.Regular at ht hu
  unfold epochNanos nanosPerDay at h
  simp only [TimeOfDay.mk.injEq] at *
  omega

theorem addDays?_of_regular (h : t.time.Regular) (days : Int) :
    t.addDays? days = (t.date.addDays? days).map fun day => ⟨day, t.time⟩ := by
  unfold addDays?
  rw [if_pos (.inl h)]
  cases t.date.addDays? days <;> rfl

theorem date_of_addSeconds? {d : Date} {second nanosecond : Nat} {hs : second < 86400}
    {hn : nanosecond < 2000000000} {seconds : Int}
    (h : (Instant.mk d ⟨second, nanosecond, hs, hn⟩).addSeconds? seconds = some u) :
    d.addDays? (((second : Int) + seconds) / 86400) = some u.date := by
  unfold addSeconds? at h
  obtain ⟨day, hday, hu⟩ := Option.bind_eq_some_iff.1 h
  cases hu
  exact hday

theorem date_of_addDays? {days : Int} (h : t.addDays? days = some u) :
    t.date.addDays? days = some u.date ∨ t.date.addDays? (days + 1) = some u.date := by
  unfold addDays? at h
  split at h
  · obtain ⟨day, hday, hu⟩ := Option.bind_eq_some_iff.1 h
    cases hu
    exact .inl hday
  · have hday := date_of_addSeconds? h
    have hlt := t.time.second_lt
    -- The leap second counts as one more, which may reach over midnight.
    have hmoved : ∀ more : Int, 0 ≤ more → more ≤ 1 →
        ((t.time.second : Int) + (86400 * days + more)) / 86400 = days ∨
          ((t.time.second : Int) + (86400 * days + more)) / 86400 = days + 1 := by
      intro more h0 h1
      omega
    split at hday
    · rcases hmoved 1 (by decide) (by decide) with hsame | hnext
      · exact .inl (hsame ▸ hday)
      · exact .inr (hnext ▸ hday)
    · rcases hmoved 0 (by decide) (by decide) with hsame | hnext
      · exact .inl (hsame ▸ hday)
      · exact .inr (hnext ▸ hday)

end Instant

end ReportQuery
