import ReportQuery.Calendar.Date

/-!
# Civil dates and day numbers

Day numbers and valid civil dates are the same thing: each day has one civil date, each valid civil
date is that of one day, and later days have later dates.

Main statements: `Civil.epochDay_ofEpochDay`, `Civil.epochDay_lt_of_before`.
-/

namespace ReportQuery

namespace Civil

/-! ## Years -/

theorem isLeap_iff (year : Int) :
    isLeap year = true ↔ year % 4 = 0 ∧ (year % 100 ≠ 0 ∨ year % 400 = 0) := by
  simp [isLeap]

theorem daysBeforeYear_eq (year : Int) :
    daysBeforeYear year =
      365 * (year - 1) + (year - 1) / 4 - (year - 1) / 100 + (year - 1) / 400 := rfl

def daysInYear (year : Int) : Nat := if isLeap year then 366 else 365

theorem daysBeforeYear_succ (year : Int) :
    daysBeforeYear (year + 1) = daysBeforeYear year + daysInYear year := by
  have hleap := isLeap_iff year
  rw [daysBeforeYear_eq, daysBeforeYear_eq, daysInYear]
  split
  · next h =>
    have := hleap.1 h
    omega
  · next h =>
    have := mt hleap.2 h
    omega

theorem daysBeforeYear_add_le {year later : Int} (h : year ≤ later) :
    daysBeforeYear year + 365 * (later - year) ≤ daysBeforeYear later := by
  rw [daysBeforeYear_eq, daysBeforeYear_eq]
  omega

theorem yearOf_bounds (day : Int) :
    daysBeforeYear (yearOf day) ≤ day ∧ day < daysBeforeYear (yearOf day + 1) := by
  unfold yearOf
  -- The guess is off by one year at most, since its error is less than two days.
  have hguess : daysBeforeYear (400 * day / 146097 + 1 - 1) ≤ day ∧
      day < daysBeforeYear (400 * day / 146097 + 1 + 1 + 1) := by
    rw [daysBeforeYear_eq, daysBeforeYear_eq]
    omega
  simp only
  split
  · next h => exact ⟨hguess.1, by rwa [Int.sub_add_cancel]⟩
  · next h =>
    split
    · next h' => exact ⟨h', hguess.2⟩
    · next h' => exact ⟨Int.not_lt.1 h, Int.not_le.1 h'⟩

/-! ## Months -/

theorem sum_monthLengths (year : Int) :
    (monthLengths year).foldr (· + ·) 0 = daysInYear year := by
  unfold monthLengths daysInYear
  split <;> rfl

theorem monthOf_spec {lengths : List Nat} (first : Nat) {day : Nat}
    (h : day < lengths.foldr (· + ·) 0) :
    ∃ past dayOfMonth length, monthOf lengths first day = (first + past, dayOfMonth + 1) ∧
      lengths[past]? = some length ∧ dayOfMonth < length ∧
      (lengths.take past).foldr (· + ·) 0 + dayOfMonth = day := by
  induction lengths generalizing first day with
  | nil => simp at h
  | cons length rest ih =>
    rw [List.foldr_cons] at h
    rw [monthOf]
    by_cases hday : day < length
    · rw [if_pos hday]
      exact ⟨0, day, length, rfl, rfl, hday, by simp⟩
    · rw [if_neg hday]
      obtain ⟨past, dayOfMonth, length', hmonth, hlength, hlt, hsum⟩ :=
        ih (first + 1) (show day - length < rest.foldr (· + ·) 0 by omega)
      refine ⟨past + 1, dayOfMonth, length', ?_, ?_, hlt, ?_⟩
      · rw [hmonth, Nat.add_assoc, Nat.add_comm 1]
      · rw [List.getElem?_cons_succ, hlength]
      · rw [List.take_succ_cons, List.foldr_cons]
        omega

theorem daysBeforeMonth_add_le {lengths : List Nat} {past later length : Nat} (h : past < later)
    (hlength : lengths[past]? = some length) :
    (lengths.take past).foldr (· + ·) 0 + length ≤ (lengths.take later).foldr (· + ·) 0 := by
  induction lengths generalizing past later with
  | nil => simp at hlength
  | cons head rest ih =>
    obtain ⟨later, rfl⟩ : ∃ k, later = k + 1 := ⟨later - 1, by omega⟩
    cases past with
    | zero =>
      rw [List.getElem?_cons_zero, Option.some.injEq] at hlength
      simp [hlength]
    | succ past =>
      rw [List.getElem?_cons_succ] at hlength
      have := ih (Nat.lt_of_succ_lt_succ h) hlength
      simp only [List.take_succ_cons, List.foldr_cons]
      omega

/-! ## Days -/

theorem dayOfYear_lt (day : Int) :
    (day - daysBeforeYear (yearOf day)).toNat < (monthLengths (yearOf day)).foldr (· + ·) 0 := by
  have hbounds := yearOf_bounds day
  rw [daysBeforeYear_succ] at hbounds
  rw [sum_monthLengths]
  omega

theorem ofEpochDay_spec (day : Int) :
    ∃ year past dayOfMonth length, ofEpochDay day = ⟨year, 1 + past, dayOfMonth + 1⟩ ∧
      (monthLengths year)[past]? = some length ∧ dayOfMonth < length ∧
      daysBeforeYear year + (((monthLengths year).take past).foldr (· + ·) 0 + dayOfMonth : Nat) =
        day + daysBeforeYear 1970 := by
  obtain ⟨past, dayOfMonth, length, hmonth, hlength, hlt, hsum⟩ :=
    monthOf_spec 1 (dayOfYear_lt (day + daysBeforeYear 1970))
  refine ⟨yearOf (day + daysBeforeYear 1970), past, dayOfMonth, length, ?_, hlength, hlt, ?_⟩
  · unfold ofEpochDay
    simp only [hmonth]
  · have := (yearOf_bounds (day + daysBeforeYear 1970)).1
    rw [hsum]
    omega

theorem valid_ofEpochDay (day : Int) : (ofEpochDay day).Valid := by
  obtain ⟨year, past, dayOfMonth, length, hday, hlength, hlt, -⟩ := ofEpochDay_spec day
  rw [hday]
  refine ⟨by simp, by simp, ?_⟩
  simp only [Nat.add_sub_cancel_left, hlength, Option.getD_some]
  omega

theorem epochDay_ofEpochDay (day : Int) : (ofEpochDay day).epochDay = day := by
  obtain ⟨year, past, dayOfMonth, length, hday, -, -, hsum⟩ := ofEpochDay_spec day
  rw [hday]
  simp only [epochDay, daysBeforeMonth, Nat.add_sub_cancel_left]
  omega

/-! ## Order -/

/-- The date is earlier: by its year, else by its month, else by its day. -/
def Before (a b : Civil) : Prop :=
  a.year < b.year ∨ a.year = b.year ∧ (a.month < b.month ∨ a.month = b.month ∧ a.day < b.day)

theorem Valid.length {c : Civil} (h : c.Valid) :
    ∃ length, (monthLengths c.year)[c.month - 1]? = some length ∧ c.day ≤ length := by
  obtain ⟨-, hfirst, hlast⟩ := h
  cases hlength : (monthLengths c.year)[c.month - 1]? with
  | none =>
    rw [hlength, Option.getD_none] at hlast
    omega
  | some length =>
    rw [hlength, Option.getD_some] at hlast
    exact ⟨length, rfl, hlast⟩

theorem Valid.month_le {c : Civil} (h : c.Valid) : c.month ≤ 12 := by
  obtain ⟨length, hlength, -⟩ := h.length
  have := (List.getElem?_eq_some_iff.1 hlength).1
  have hcount : (monthLengths c.year).length = 12 := rfl
  omega

theorem Valid.day_le {c : Civil} (h : c.Valid) : c.day ≤ 31 := by
  obtain ⟨length, hlength, hday⟩ := h.length
  have hmem := List.mem_of_getElem? hlength
  have hle : ∀ n ∈ monthLengths c.year, n ≤ 31 := by
    unfold monthLengths
    split <;> decide
  have := hle length hmem
  omega

theorem Valid.dayOfYear_lt {c : Civil} (h : c.Valid) :
    daysBeforeMonth c.year c.month + (c.day - 1) < daysInYear c.year := by
  obtain ⟨length, hlength, hday⟩ := h.length
  have hpast := (List.getElem?_eq_some_iff.1 hlength).1
  have hle := daysBeforeMonth_add_le hpast hlength
  rw [List.take_length, sum_monthLengths] at hle
  have := h.2.1
  unfold daysBeforeMonth
  omega

theorem Valid.epochDay_bounds {c : Civil} (h : c.Valid) :
    daysBeforeYear c.year ≤ c.epochDay + daysBeforeYear 1970 ∧
      c.epochDay + daysBeforeYear 1970 < daysBeforeYear (c.year + 1) := by
  have hday := h.dayOfYear_lt
  have hfirst := h.2.1
  rw [daysBeforeYear_succ]
  unfold epochDay
  omega

theorem valid_firstOfMonth (year : Int) {month : Nat} (hfirst : 1 ≤ month) (hlast : month ≤ 12) :
    (⟨year, month, 1⟩ : Civil).Valid := by
  refine ⟨hfirst, Nat.le_refl 1, ?_⟩
  have hcount : month - 1 < (monthLengths year).length := by
    have : (monthLengths year).length = 12 := rfl
    omega
  have hpos : ∀ n ∈ monthLengths year, 1 ≤ n := by
    unfold monthLengths
    split <;> decide
  simp only [List.getElem?_eq_getElem hcount, Option.getD_some]
  exact hpos _ (List.getElem_mem hcount)

theorem valid_lastOfYear (year : Int) : (⟨year, 12, 31⟩ : Civil).Valid :=
  ⟨Nat.le_add_left 1 11, Nat.le_add_left 1 30, Nat.le_refl 31⟩

theorem epochDay_lt_of_before {a b : Civil} (ha : a.Valid) (hb : b.Valid) (h : a.Before b) :
    a.epochDay < b.epochDay := by
  obtain ⟨ya, ma, da⟩ := a
  obtain ⟨yb, mb, db⟩ := b
  have hma := ha.1
  have hda := ha.2.1
  have hdb := hb.2.1
  unfold epochDay
  rcases h with hyear | ⟨rfl, hmonth | ⟨rfl, hday⟩⟩
  · have hlast := ha.epochDay_bounds.2
    have hfirst := hb.epochDay_bounds.1
    have hle := daysBeforeYear_add_le (Int.add_one_le_of_lt hyear)
    simp only [epochDay] at *
    omega
  · obtain ⟨length, hlength, hday⟩ := ha.length
    have hle := daysBeforeMonth_add_le (show ma - 1 < mb - 1 by simp only at *; omega) hlength
    simp only [daysBeforeMonth] at *
    omega
  · simp only at *
    omega

theorem before_or_eq_or_before (a b : Civil) : a.Before b ∨ a = b ∨ b.Before a := by
  obtain ⟨ya, ma, da⟩ := a
  obtain ⟨yb, mb, db⟩ := b
  simp only [Before, Civil.mk.injEq]
  omega

theorem before_of_epochDay_lt {a b : Civil} (ha : a.Valid) (hb : b.Valid)
    (h : a.epochDay < b.epochDay) : a.Before b := by
  rcases before_or_eq_or_before a b with hbefore | rfl | hafter
  · exact hbefore
  · exact absurd h (Int.lt_irrefl _)
  · exact absurd (epochDay_lt_of_before hb ha hafter) (Int.lt_asymm h)

theorem eq_of_epochDay_eq {a b : Civil} (ha : a.Valid) (hb : b.Valid)
    (h : a.epochDay = b.epochDay) : a = b := by
  rcases before_or_eq_or_before a b with hbefore | heq | hafter
  · exact absurd h (Int.ne_of_lt (epochDay_lt_of_before ha hb hbefore))
  · exact heq
  · exact absurd h.symm (Int.ne_of_lt (epochDay_lt_of_before hb ha hafter))

theorem ofEpochDay_epochDay {c : Civil} (h : c.Valid) : ofEpochDay c.epochDay = c :=
  eq_of_epochDay_eq (valid_ofEpochDay _) h (epochDay_ofEpochDay _)

end Civil

/-! ## Dates -/

namespace Date

theorem valid_civil (d : Date) : d.civil.Valid := Civil.valid_ofEpochDay d.epochDay

theorem epochDay_civil (d : Date) : d.civil.epochDay = d.epochDay :=
  Civil.epochDay_ofEpochDay d.epochDay

theorem ofEpochDay?_eq_some_iff {day : Int} {d : Date} :
    ofEpochDay? day = some d ↔ d.epochDay = day := by
  unfold ofEpochDay?
  constructor
  · intro h
    split at h
    · cases h
      rfl
    · cases h
  · rintro rfl
    rw [dif_pos ⟨d.first_le, d.le_last⟩]

theorem ofCivil?_civil (d : Date) : ofCivil? d.civil = some d := by
  unfold ofCivil?
  rw [if_pos d.valid_civil, ofEpochDay?_eq_some_iff, epochDay_civil]

theorem daysBeforeYear_first :
    Civil.daysBeforeYear (-262143) = firstDay + Civil.daysBeforeYear 1970 := by decide

theorem daysBeforeYear_last :
    Civil.daysBeforeYear (262142 + 1) = lastDay + 1 + Civil.daysBeforeYear 1970 := by decide

theorem year_bounds (d : Date) : -262143 ≤ d.civil.year ∧ d.civil.year ≤ 262142 := by
  have hyear := d.valid_civil.epochDay_bounds
  rw [epochDay_civil] at hyear
  have hfirst := d.first_le
  have hlast := d.le_last
  have hlow := daysBeforeYear_first
  have hhigh := daysBeforeYear_last
  constructor
  · refine Int.not_lt.1 fun h => ?_
    have := Civil.daysBeforeYear_add_le (Int.add_one_le_of_lt h)
    omega
  · refine Int.not_lt.1 fun h => ?_
    have := Civil.daysBeforeYear_add_le (Int.add_one_le_of_lt h)
    omega

theorem exists_civil_eq {c : Civil} (h : c.Valid) (hlow : -262143 ≤ c.year)
    (hhigh : c.year ≤ 262142) : ∃ d : Date, d.civil = c := by
  have hyear := h.epochDay_bounds
  have hfirst := daysBeforeYear_first
  have hlast := daysBeforeYear_last
  have hafter := Civil.daysBeforeYear_add_le hlow
  have hbefore := Civil.daysBeforeYear_add_le (Int.add_le_add_right hhigh 1)
  exact ⟨⟨c.epochDay, by omega, by omega⟩, Civil.ofEpochDay_epochDay h⟩

theorem before_of_lt {d e : Date} (h : d.epochDay < e.epochDay) : d.civil.Before e.civil :=
  Civil.before_of_epochDay_lt d.valid_civil e.valid_civil
    (by rwa [epochDay_civil, epochDay_civil])

end Date

end ReportQuery
