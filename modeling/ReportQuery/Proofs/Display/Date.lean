import ReportQuery.Display.Value
import ReportQuery.Proofs.Calendar.Timestamp

/-!
# Dates of instants

An instant is shown as its date of universal time, whether it is given as its own text, as a
timestamp of any local clock or as a number of milliseconds since 1970.

Main statement: `Format.text?_of_instant`.
-/

namespace ReportQuery

namespace Json

variable {t : Instant}

theorem date?_of_ofText {text : List Char} (h : Instant.ofText text = .ok t) :
    (Json.string (String.ofList text)).date? = some t.date := by
  simp [date?, Instant.ofText?, h, Except.toOption]

theorem fits64_epochMillis (t : Instant) : Fits64 (t.epochNanos / 1000000) := by
  have hfirst := t.date.first_le
  have hlast := t.date.le_last
  have hsecond := t.time.second_lt
  have hnano := t.time.nanosecond_lt
  unfold Date.firstDay at hfirst
  unfold Date.lastDay at hlast
  unfold Fits64 Instant.epochNanos
  omega

theorem date?_epochMillis (ht : t.time.Regular) :
    (Json.number (.integer _ (fits64_epochMillis t))).date? = some t.date := by
  have hsecond := t.time.second_lt
  unfold TimeOfDay.Regular at ht
  unfold date? Instant.dateOfMillis? Number.whole Instant.epochNanos
  simp only [Date.ofEpochDay?_eq_some_iff]
  omega

end Json

namespace Format

variable {f : Format} {t : Instant}

theorem text?_of_date? {value : Json} {d : Date} (hkind : f.kind = .date)
    (h : value.date? = some d) : f.text? value = some ((Locale.resolve f.locale).date d) := by
  simp [text?, hkind, h]

/-- Every form of an instant is shown as its date. -/
theorem text?_of_instant (hkind : f.kind = .date) (ht : t.time.Regular)
    (hyear : t.date.FourDigitYear) :
    f.text? (.string (String.ofList t.toText)) = some ((Locale.resolve f.locale).date t.date) ∧
      (∃ hfits : Json.Fits64 (t.epochNanos / 1000000),
        f.text? (.number (.integer (t.epochNanos / 1000000) hfits)) =
          some ((Locale.resolve f.locale).date t.date)) ∧
      ∀ s : Timestamp, s.Names t →
        f.text? (.string (String.ofList s.text)) =
          some ((Locale.resolve f.locale).date t.date) := by
  refine ⟨?_, ⟨Json.fits64_epochMillis t, ?_⟩, ?_⟩
  · obtain ⟨s, htext, hnames⟩ := Instant.exists_text_eq_toText (.inl ht) hyear
    have hread := Timestamp.ofText_text hnames
    rw [htext] at hread
    have hdate : t.truncated.date = t.date := rfl
    rw [← hdate]
    exact text?_of_date? hkind (Json.date?_of_ofText hread)
  · exact text?_of_date? hkind (Json.date?_epochMillis ht)
  · intro s hnames
    exact text?_of_date? hkind (Json.date?_of_ofText (Timestamp.ofText_text hnames))

def lastNanosecond1969 : Instant where
  date := ⟨-1, by decide, by decide⟩
  time := { TimeOfDay.lastMillisecond with nanosecond := 999999999, nanosecond_lt := by decide }

/-- On a clock ahead of universal time 1970 has begun. -/
def newYear1970 : Timestamp where
  date := Instant.epoch.date
  separator := ' '
  hour := 8
  minute := 44
  second := 59
  fraction := List.replicate 9 '9'
  zone := .shifted true 8 45 (by decide) (by decide)
  fourDigitYear := by decide
  separator_mem := by decide
  hour_lt := by decide
  minute_lt := by decide
  second_le := by decide
  all_fraction := by decide

theorem text?_of_instant_before_1970 :
    let f : Format := { kind := .date, locale := some "de_AT" }
    let t := lastNanosecond1969
    f.kind = .date ∧ t.time.Regular ∧ t.date.FourDigitYear ∧
      t.toText = "1969-12-31T23:59:59.999Z".toList ∧ t.epochNanos / 1000000 = -1 ∧
      newYear1970.Names t ∧ newYear1970.text = "1970-01-01 08:44:59.999999999+08:45".toList ∧
      (Locale.resolve f.locale).date t.date = "31.12.1969".toList ∧
      f.text? (.string (String.ofList t.toText)) = some ((Locale.resolve f.locale).date t.date) ∧
      (∃ hfits : Json.Fits64 (t.epochNanos / 1000000),
        f.text? (.number (.integer (t.epochNanos / 1000000) hfits)) =
          some ((Locale.resolve f.locale).date t.date)) ∧
      f.text? (.string (String.ofList newYear1970.text)) =
        some ((Locale.resolve f.locale).date t.date) := by
  intro f t
  have hregular : t.time.Regular := by decide
  have hyear : t.date.FourDigitYear := by decide
  have hnames : newYear1970.Names t := ⟨by decide, by decide +kernel⟩
  obtain ⟨htext, hmillis, hstamps⟩ := text?_of_instant (f := f) rfl hregular hyear
  exact ⟨rfl, hregular, hyear, by decide +kernel, by decide, hnames, by decide +kernel,
    by decide +kernel, htext, hmillis, hstamps newYear1970 hnames⟩

end Format

end ReportQuery
