import ReportQuery.Calendar.Reading
import ReportQuery.Proofs.Calendar.DayShift

/-!
# Timestamps of local clocks

By RFC 3339 a timestamp is the reading of a local clock, with the minutes by which that clock is
ahead of universal time. It names one instant, and this is the instant that is read from its text.

Main statements: `Timestamp.ofText_text`, `Instant.ofText_timestamps`.
-/

namespace ReportQuery

/-! ## Texts of timestamps -/

/-- Universal time, or hours and minutes ahead of it or behind it. -/
inductive Zone where
  | universal (letter : Char) (letter_eq : letter = 'Z' ∨ letter = 'z')
  | shifted (ahead : Bool) (hours minutes : Nat) (hours_lt : hours < 24) (minutes_lt : minutes < 60)

namespace Zone

/-- The minutes by which local time is ahead of universal time. -/
def minutes : Zone → Int
  | universal _ _ => 0
  | shifted ahead hours minutes _ _ =>
    if ahead then (hours * 60 + minutes : Nat) else -(hours * 60 + minutes : Nat)

def text : Zone → List Char
  | universal letter _ => [letter]
  | shifted ahead hours minutes _ _ =>
    (if ahead then '+' else '-') :: (Text.padded 2 hours ++ ':' :: Text.padded 2 minutes)

end Zone

/-- The reading of a local clock. The second 60 is a leap second. -/
structure Timestamp where
  date : Date
  separator : Char
  hour : Nat
  minute : Nat
  second : Nat
  /-- Digits of the fraction of the second, or none. -/
  fraction : List Char
  zone : Zone
  fourDigitYear : date.FourDigitYear
  separator_mem : separator ∈ ['T', 't', ' ']
  hour_lt : hour < 24
  minute_lt : minute < 60
  second_le : second ≤ 60
  all_fraction : fraction.all Text.isDigit = true

namespace Timestamp

def clockText (s : Timestamp) : List Char :=
  Text.padded 2 s.hour ++ ':' :: Text.padded 2 s.minute ++ ':' :: Text.padded 2 s.second

def fractionText (s : Timestamp) : List Char :=
  if s.fraction = [] then [] else '.' :: s.fraction

def text (s : Timestamp) : List Char :=
  s.date.toText ++ s.separator :: s.clockText ++ s.fractionText ++ s.zone.text

def nanosecond (s : Timestamp) : Nat :=
  Text.digitsValue s.fraction * 1000000000 / power 10 s.fraction.length

/-- The seconds of universal time since 1970, a leap second counting as the one before it. -/
def epochSecond (s : Timestamp) : Int :=
  s.date.epochDay * 86400 + (s.hour * 3600 + s.minute * 60 + min s.second 59 : Nat) -
    60 * s.zone.minutes

/-- The clock shows the timestamp at the instant. -/
structure Names (s : Timestamp) (t : Instant) : Prop where
  second : t.date.epochDay * 86400 + t.time.second = s.epochSecond
  nanosecond : t.time.nanosecond = s.nanosecond + if s.second = 60 then 1000000000 else 0

end Timestamp

/-! ## Reading the parts -/

namespace Instant

variable {width n : Nat} {rest : List Char}

theorem takeNumber_padded (h : n < power 10 (width + 1)) :
    takeNumber (width + 1) (Text.padded (width + 1) n ++ rest) = .ok (n, rest) := by
  unfold takeNumber
  simp [List.take_left' (Text.length_padded h), List.drop_left' (Text.length_padded h),
    Text.length_padded h, Text.all_isDigit_padded, Text.digitsValue_padded]

theorem takeDate_toText {d : Date} (h : d.FourDigitYear) :
    takeDate (d.toText ++ rest) = .ok (d, rest) := by
  have hyear := Int.toNat_of_nonneg h.1
  have hdate : Date.ofCivil? ⟨d.civil.year, d.civil.month, d.civil.day⟩ = some d :=
    d.ofCivil?_civil
  unfold takeDate
  simp [Date.toText_eq h, takeNumber_padded (Date.year_lt h), takeNumber_padded d.month_lt,
    takeNumber_padded d.day_lt, takeOneOf, bind, Except.bind, hyear, hdate]
  rfl

theorem takePair_padded (rest : List Char) (h : n < 100) :
    ∃ a b, takePair (Text.padded 2 n ++ rest) = .ok (a, b, rest) ∧ Text.digitsValue [a, b] = n := by
  have hvalue := Text.digitsValue_padded 2 n
  rw [Text.padded_two h] at hvalue ⊢
  refine ⟨_, _, ?_, hvalue⟩
  simp [takePair, Text.isDigit_digitChar (show n / 10 < 10 by omega),
    Text.isDigit_digitChar (show n % 10 < 10 by omega)]

theorem nanoseconds_eq {digits : List Char} (h : digits.all Text.isDigit = true) :
    nanoseconds digits = Text.digitsValue digits * 1000000000 / power 10 digits.length := by
  have hnine : power 10 9 = 1000000000 := rfl
  have hpos : ∀ n, 0 < power 10 n := fun n => power_pos 10 n (by decide)
  unfold nanoseconds
  rw [← hnine]
  by_cases hshort : digits.length ≤ 9
  · have hpower : power 10 9 = power 10 (9 - digits.length) * power 10 digits.length := by
      rw [← power_add, Nat.sub_add_cancel hshort]
    rw [List.take_of_length_le hshort, hpower, ← Nat.mul_assoc, Nat.mul_div_cancel _ (hpos _)]
  · -- The digits after the ninth are worth less than a nanosecond.
    obtain ⟨first, more, hlength, rfl⟩ : ∃ first more, first.length = 9 ∧ digits = first ++ more :=
      ⟨digits.take 9, digits.drop 9, List.length_take_of_le (by omega),
        (List.take_append_drop 9 digits).symm⟩
    rw [List.all_append, Bool.and_eq_true] at h
    have hmore := Text.digitsValue_lt h.2
    rw [List.take_left' hlength, hlength, Nat.sub_self, power_zero, Nat.mul_one,
      List.length_append, hlength, Nat.add_comm 9, power_add,
      Nat.mul_div_mul_right _ _ (hpos 9), Text.digitsValue_append, Nat.add_comm,
      Nat.add_mul_div_right _ _ (hpos _), Nat.div_eq_of_lt hmore, Nat.zero_add]

theorem nanoseconds_lt {digits : List Char} (h : digits.all Text.isDigit = true) :
    nanoseconds digits < 1000000000 := by
  have hlt := Text.digitsValue_lt h
  rw [nanoseconds_eq h, Nat.div_lt_iff_lt_mul (power_pos 10 _ (by decide))]
  omega

theorem timeOfDay?_eq {hour minute second nanosecond : Nat} (hh : hour < 24) (hm : minute < 60)
    (hs : second ≤ 60) (hn : nanosecond < 1000000000) :
    ∃ time, timeOfDay? hour minute second nanosecond = some time ∧
      time.second = hour * 3600 + minute * 60 + min second 59 ∧
      time.nanosecond = nanosecond + if second = 60 then 1000000000 else 0 := by
  unfold timeOfDay?
  by_cases hleap : second = 60
  · have hbound : hour < 24 ∧ minute < 60 ∧ 59 < 60 ∧ nanosecond + 1000000000 < 2000000000 := by
      omega
    simp [hleap, hbound]
  · have hbound : hour < 24 ∧ minute < 60 ∧ second < 60 ∧ nanosecond < 2000000000 := by omega
    simp [hleap, hbound]
    omega

theorem addSeconds?_eq_some {t u : Instant} {seconds : Int}
    (hsecond : u.date.epochDay * 86400 + u.time.second =
      t.date.epochDay * 86400 + t.time.second + seconds)
    (hnano : u.time.nanosecond = t.time.nanosecond) : t.addSeconds? seconds = some u := by
  obtain ⟨d, second, nanosecond, hs, _⟩ := t
  obtain ⟨e, second', nanosecond', hs', _⟩ := u
  simp only at hsecond hnano
  have hdate : d.addDays? (((second : Int) + seconds) / 86400) = some e := by
    rw [Date.addDays?_eq_some_iff]
    omega
  unfold addSeconds?
  simp [hdate, hnano]
  omega

end Instant

namespace Zone

theorem natAbs_minutes_lt (z : Zone) : z.minutes.natAbs < 1440 := by
  cases z with
  | universal => exact Nat.zero_lt_succ _
  | shifted ahead hours minutes =>
    unfold Zone.minutes
    split <;> omega

theorem takeOffset_text (z : Zone) : Instant.takeOffset z.text = .ok (z.minutes, []) := by
  cases z with
  | universal letter h => simp [text, Zone.minutes, Instant.takeOffset, h]
  | shifted ahead hours minutes hh hm =>
    obtain ⟨a, b, hhours, hvalue⟩ :=
      Instant.takePair_padded (':' :: Text.padded 2 minutes) (show hours < 100 by omega)
    obtain ⟨c, d, hminutes, hvalue'⟩ := Instant.takePair_padded [] (show minutes < 100 by omega)
    rw [List.append_nil] at hminutes
    cases ahead <;>
      simp [text, Zone.minutes, Instant.takeOffset, Instant.takeOneOf, hhours, hminutes, hvalue,
        hvalue', hm, bind, Except.bind, pure, Except.pure]

theorem exists_text_eq_cons (z : Zone) :
    ∃ c rest, z.text = c :: rest ∧ c ≠ '.' ∧ Text.isDigit c = false := by
  cases z with
  | universal letter h =>
    refine ⟨letter, [], rfl, ?_⟩
    rcases h with rfl | rfl <;> decide
  | shifted ahead => exact ⟨_, _, rfl, by cases ahead <;> decide⟩

end Zone

namespace Timestamp

variable {s : Timestamp} {t : Instant}

theorem takeClock_text (s : Timestamp) (rest : List Char) :
    Instant.takeClock (s.clockText ++ rest) = .ok ((s.hour, s.minute, s.second), rest) := by
  have hbounds : s.hour < power 10 2 ∧ s.minute < power 10 2 ∧ s.second < power 10 2 := by
    have hhundred : power 10 2 = 100 := rfl
    have := s.hour_lt
    have := s.minute_lt
    have := s.second_le
    omega
  unfold Instant.takeClock clockText
  simp [Instant.takeNumber_padded hbounds.1, Instant.takeNumber_padded hbounds.2.1,
    Instant.takeNumber_padded hbounds.2.2, Instant.takeOneOf, bind, Except.bind]
  rfl

theorem takeFraction_text (s : Timestamp) :
    Instant.takeFraction (s.fractionText ++ s.zone.text) = .ok (s.nanosecond, s.zone.text) := by
  -- What follows is neither a digit nor the point of a fraction.
  obtain ⟨c, rest, hzone, hpoint, hdigit⟩ := s.zone.exists_text_eq_cons
  unfold fractionText nanosecond
  split
  · next hnone =>
    rw [hzone, hnone, List.nil_append]
    unfold Instant.takeFraction
    split
    · next heq => exact absurd (List.cons.inj heq).1 hpoint
    · rfl
  · next hsome =>
    have hrun : (s.fraction ++ s.zone.text).takeWhile Text.isDigit = s.fraction := by
      rw [hzone]
      exact Text.takeWhile_append s.all_fraction (Text.apart_cons.2 hdigit)
    rw [← Instant.nanoseconds_eq s.all_fraction, List.cons_append]
    unfold Instant.takeFraction
    simp only [hrun]
    split
    · exact absurd ‹s.fraction = []› hsome
    · exact absurd ‹s.fraction = []› hsome
    · rw [List.drop_left]

theorem nanosecond_lt (s : Timestamp) : s.nanosecond < 1000000000 := by
  have hlt := Instant.nanoseconds_lt s.all_fraction
  rwa [Instant.nanoseconds_eq s.all_fraction] at hlt

theorem le_byteLength_text (s : Timestamp) : 19 ≤ Text.byteLength s.text := by
  have hyear : 4 ≤ (Text.padded 4 s.date.civil.year.toNat).length := Text.width_le_length_padded _ _
  apply Nat.le_trans _ (Text.length_le_byteLength _)
  have := Text.width_le_length_padded 2 s.date.civil.month
  have := Text.width_le_length_padded 2 s.date.civil.day
  have := Text.width_le_length_padded 2 s.hour
  have := Text.width_le_length_padded 2 s.minute
  have := Text.width_le_length_padded 2 s.second
  simp only [text, clockText, Date.toText_eq s.fourDigitYear, List.length_append, List.length_cons]
  omega

theorem ofText_text (h : s.Names t) : Instant.ofText s.text = .ok t := by
  obtain ⟨time, htime, hsecond, hnano⟩ :=
    Instant.timeOfDay?_eq s.hour_lt s.minute_lt s.second_le s.nanosecond_lt
  have hmoved : (Instant.mk s.date time).addSeconds? (-60 * s.zone.minutes) = some t := by
    have hnames := h.second
    unfold epochSecond at hnames
    apply Instant.addSeconds?_eq_some _ (h.nanosecond.trans hnano.symm)
    simp only
    omega
  have hshort := s.le_byteLength_text
  have hoffset := s.zone.natAbs_minutes_lt
  have htext : s.text = s.date.toText ++ (s.separator :: (s.clockText ++
      (s.fractionText ++ s.zone.text))) := by
    simp [text]
  unfold Instant.ofText
  rw [if_neg (by omega), htext]
  have hrange : ¬1440 ≤ s.zone.minutes.natAbs := by omega
  simp only [Instant.takeDate_toText s.fourDigitYear, Instant.takeOneOf, s.separator_mem, if_true,
    takeClock_text, takeFraction_text, htime, Zone.takeOffset_text, hmoved, bind, Except.bind,
    hrange, if_false]
  rfl

end Timestamp

/-! ## Timestamps of an instant -/

namespace TimeOfDay

/-- A leap second is the last one of a minute. -/
def OnClock (t : TimeOfDay) : Prop := t.Regular ∨ t.second % 60 = 59

instance (t : TimeOfDay) : Decidable t.OnClock := inferInstanceAs (Decidable (_ ∨ _))

def leap (t : TimeOfDay) : Bool := !decide t.Regular

theorem OnClock.last {t : TimeOfDay} (h : t.OnClock) (hleap : t.leap = true) :
    t.second % 60 = 59 := by
  unfold leap at hleap
  exact h.resolve_left (by simpa using hleap)

theorem nanosecond_eq (t : TimeOfDay) :
    t.nanosecond = t.nanosecond % 1000000000 + if t.leap then 1000000000 else 0 := by
  have hlt := t.nanosecond_lt
  by_cases h : t.Regular
  · simp only [leap, h, decide_true, Bool.not_true, Bool.false_eq_true, if_false]
    unfold Regular at h
    omega
  · simp only [leap, h, decide_false, Bool.not_false, if_true]
    unfold Regular at h
    omega

theorem shown_eq (t : TimeOfDay) :
    t.shown = (t.second % 60 + t.leap.toNat, t.nanosecond % 1000000000 / 1000000) := by
  have hlt := t.nanosecond_lt
  unfold shown
  split
  · next h =>
    have hregular : t.Regular := h
    simp [leap, hregular, Nat.mod_eq_of_lt h]
  · next h =>
    have hleap : ¬t.Regular := h
    have hrest : t.nanosecond - 1000000000 = t.nanosecond % 1000000000 := by omega
    simp [leap, hleap, hrest]

end TimeOfDay

namespace Timestamp

/-- The timestamp of a second of a day, or of the leap second behind it. -/
def ofSecond (date : Date) (hyear : date.FourDigitYear) (second : Nat) (hsecond : second < 86400)
    (leap : Bool) (digits : List Char) (hdigits : digits.all Text.isDigit = true) (zone : Zone) :
    Timestamp where
  date := date
  separator := 'T'
  hour := second / 3600
  minute := second / 60 % 60
  second := second % 60 + leap.toNat
  fraction := digits
  zone := zone
  fourDigitYear := hyear
  separator_mem := List.mem_cons_self
  hour_lt := by omega
  minute_lt := by omega
  second_le := by have := leap.toNat_le; omega
  all_fraction := hdigits

theorem names_ofSecond {date : Date} {hyear : date.FourDigitYear} {second : Nat}
    {hsecond : second < 86400} {leap : Bool} {digits : List Char}
    {hdigits : digits.all Text.isDigit = true} {zone : Zone} {t : Instant}
    (hepoch : t.date.epochDay * 86400 + t.time.second =
      date.epochDay * 86400 + second - 60 * zone.minutes)
    (hleap : leap = true → second % 60 = 59)
    (hnano : t.time.nanosecond = Text.digitsValue digits * 1000000000 / power 10 digits.length +
      if leap then 1000000000 else 0) :
    (ofSecond date hyear second hsecond leap digits hdigits zone).Names t := by
  cases leap with
  | false =>
    have hregular : second % 60 ≠ 60 := by omega
    constructor
    · simp only [epochSecond, ofSecond, Bool.toNat_false]
      omega
    · simpa [nanosecond, ofSecond, hregular] using hnano
  | true =>
    have hlast := hleap rfl
    constructor
    · simp only [epochSecond, ofSecond, Bool.toNat_true]
      omega
    · simpa [nanosecond, ofSecond, hlast] using hnano

end Timestamp

namespace Instant

/-- The instant without the part of a millisecond that is over. -/
def truncated (t : Instant) : Instant where
  date := t.date
  time := { t.time with
    nanosecond := t.time.nanosecond / 1000000 * 1000000
    nanosecond_lt := by have := t.time.nanosecond_lt; omega }

/-- The day is the one on the clock of the zone. -/
def IsOn (t : Instant) (day : Date) (zone : Zone) : Prop :=
  day.epochDay = (t.date.epochDay * 86400 + t.time.second + 60 * zone.minutes) / 86400

instance (t : Instant) (day : Date) (zone : Zone) : Decidable (t.IsOn day zone) :=
  inferInstanceAs (Decidable (_ = _))

variable {t : Instant}

theorem exists_text_eq_toText (hclock : t.time.OnClock) (hyear : t.date.FourDigitYear) :
    ∃ s : Timestamp, s.text = t.toText ∧ s.Names t.truncated := by
  have hnano := t.time.nanosecond_eq
  have hmilli : t.time.nanosecond % 1000000000 / 1000000 < power 10 3 := by
    have hthousand : power 10 3 = 1000 := rfl
    omega
  refine ⟨.ofSecond t.date hyear t.time.second t.time.second_lt t.time.leap _
    (Text.all_isDigit_padded 3 (t.time.nanosecond % 1000000000 / 1000000))
    (.universal 'Z' (.inl rfl)), ?_, Timestamp.names_ofSecond ?_ hclock.last ?_⟩
  · have hne : Text.padded 3 (t.time.nanosecond % 1000000000 / 1000000) ≠ [] := by
      rw [← List.length_pos_iff, Text.length_padded hmilli]
      decide
    simp [Timestamp.text, Timestamp.clockText, Timestamp.fractionText, Timestamp.ofSecond, hne,
      toText, TimeOfDay.toText, TimeOfDay.shown_eq, Zone.text]
  · exact (Int.sub_zero _).symm
  · rw [Text.digitsValue_padded, Text.length_padded hmilli]
    have hthousand : power 10 (2 + 1) = 1000 := rfl
    simp only [truncated, hthousand]
    generalize (if t.time.leap then 1000000000 else 0) = past at hnano ⊢
    omega

theorem exists_names (hclock : t.time.OnClock) {zone : Zone} {day : Date} (hday : t.IsOn day zone)
    (hyear : day.FourDigitYear) : ∃ s : Timestamp, s.zone = zone ∧ s.date = day ∧ s.Names t := by
  have hnano := t.time.nanosecond_eq
  have hnine : t.time.nanosecond % 1000000000 < power 10 9 := Nat.mod_lt _ (by decide)
  unfold IsOn at hday
  let second := (t.date.epochDay * 86400 + t.time.second + 60 * zone.minutes) % 86400
  refine ⟨.ofSecond day hyear second.toNat (by omega) t.time.leap _
    (Text.all_isDigit_padded 9 (t.time.nanosecond % 1000000000)) zone, rfl, rfl,
    Timestamp.names_ofSecond (by omega) ?_ ?_⟩
  · intro hleap
    have hlast := hclock.last hleap
    omega
  · have hpower : power 10 (8 + 1) = 1000000000 := rfl
    rwa [Text.digitsValue_padded, Text.length_padded hnine, hpower,
      Nat.mul_div_cancel _ (by decide)]

/-! ## Instants that are read -/

theorem nanosecond_lt_of_takeFraction {text rest : List Char} {nanosecond : Nat}
    (h : takeFraction text = .ok (nanosecond, rest)) : nanosecond < 1000000000 := by
  unfold takeFraction at h
  split at h
  · split at h
    · cases h
    · cases h
    · cases h
      exact nanoseconds_lt List.all_takeWhile
  · cases h
    decide

theorem onClock_of_timeOfDay? {hour minute second nanosecond : Nat} {time : TimeOfDay}
    (hnano : nanosecond < 1000000000)
    (h : timeOfDay? hour minute second nanosecond = some time) : time.OnClock := by
  unfold timeOfDay? at h
  unfold TimeOfDay.OnClock TimeOfDay.Regular
  by_cases hleap : second = 60
  · simp only [hleap, if_true, Option.dite_none_right_eq_some, Option.some.injEq] at h
    obtain ⟨-, rfl⟩ := h
    simp only
    omega
  · simp only [hleap, if_false, Option.dite_none_right_eq_some, Option.some.injEq] at h
    obtain ⟨-, rfl⟩ := h
    exact .inl hnano

theorem onClock_of_addSeconds? {u : Instant} {minutes : Int}
    (hclock : t.time.OnClock) (h : t.addSeconds? (-60 * minutes) = some u) : u.time.OnClock := by
  unfold addSeconds? at h
  obtain ⟨day, -, hu⟩ := Option.bind_eq_some_iff.1 h
  cases hu
  unfold TimeOfDay.OnClock TimeOfDay.Regular at *
  simp only
  omega

theorem onClock_of_ofText {text : List Char} (h : ofText text = .ok t) : t.time.OnClock := by
  unfold ofText at h
  simp only [bind, Except.bind, pure, Except.pure, throw, throwThe, MonadExceptOf.throw] at h
  -- Every step has to succeed, down to the last one.
  repeat' split at h
  all_goals cases h
  apply onClock_of_addSeconds? _ ‹addSeconds? _ _ = some t›
  apply onClock_of_timeOfDay? _ ‹timeOfDay? _ _ _ _ = some _›
  exact nanosecond_lt_of_takeFraction ‹takeFraction _ = .ok _›

/-- An instant is read from its own text, up to the millisecond, and from each of its timestamps, of
which there is one on every clock. -/
theorem ofText_timestamps (t : Instant) :
    ((∃ text, ofText text = .ok t) → t.time.OnClock) ∧
      (t.time.OnClock →
        (t.date.FourDigitYear → ofText t.toText = .ok t.truncated) ∧
          (∀ s : Timestamp, s.Names t → ofText s.text = .ok t) ∧
          ∀ (zone : Zone) (day : Date), t.IsOn day zone → day.FourDigitYear →
            ∃ s : Timestamp, s.zone = zone ∧ s.date = day ∧ s.Names t) := by
  refine ⟨fun ⟨text, h⟩ => onClock_of_ofText h, fun hclock => ⟨?_, ?_, ?_⟩⟩
  · intro hyear
    obtain ⟨s, htext, hnames⟩ := exists_text_eq_toText hclock hyear
    rw [← htext, Timestamp.ofText_text hnames]
  · exact fun s hnames => Timestamp.ofText_text hnames
  · exact fun zone day hday hyear => exists_names hclock hday hyear

def leapSecond2016 : Instant where
  date := ⟨17166, by decide, by decide⟩
  time := { TimeOfDay.lastMillisecond with nanosecond := 1500000000, nanosecond_lt := by decide }

/-- The leap second on a clock on which the next year has begun. -/
def leapSecondAhead : Timestamp where
  date := ⟨17167, by decide, by decide⟩
  separator := 't'
  hour := 5
  minute := 29
  second := 60
  fraction := ['5']
  zone := .shifted true 5 30 (by decide) (by decide)
  fourDigitYear := by decide
  separator_mem := by decide
  hour_lt := by decide
  minute_lt := by decide
  second_le := by decide
  all_fraction := by decide

theorem ofText_timestamps_of_leapSecond :
    leapSecond2016.time.OnClock ∧
      leapSecond2016.date.FourDigitYear ∧
      leapSecond2016.toText = "2016-12-31T23:59:60.500Z".toList ∧
      ofText leapSecond2016.toText = .ok leapSecond2016.truncated ∧
      leapSecondAhead.Names leapSecond2016 ∧
      leapSecondAhead.text = "2017-01-01t05:29:60.5+05:30".toList ∧
      ofText leapSecondAhead.text = .ok leapSecond2016 ∧
      leapSecond2016.IsOn leapSecondAhead.date leapSecondAhead.zone ∧
      ∃ s : Timestamp, s.zone = leapSecondAhead.zone ∧ s.date = leapSecondAhead.date ∧
        s.Names leapSecond2016 := by
  have hclock : leapSecond2016.time.OnClock := by decide
  have hyear : leapSecond2016.date.FourDigitYear := by decide
  have hnames : leapSecondAhead.Names leapSecond2016 := ⟨by decide, by decide +kernel⟩
  have hday : leapSecond2016.IsOn leapSecondAhead.date leapSecondAhead.zone := by decide
  obtain ⟨hown, hread, hevery⟩ := (ofText_timestamps leapSecond2016).2 hclock
  have hstamp := hread leapSecondAhead hnames
  exact ⟨(ofText_timestamps leapSecond2016).1 ⟨_, hstamp⟩, hyear, by decide +kernel, hown hyear,
    hnames, by decide +kernel, hstamp, hday,
    hevery _ _ hday leapSecondAhead.fourDigitYear⟩

end Instant

end ReportQuery
