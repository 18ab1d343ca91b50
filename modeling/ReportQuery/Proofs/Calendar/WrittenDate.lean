import ReportQuery.Calendar.Reading
import ReportQuery.Proofs.Calendar.Civil
import ReportQuery.Proofs.Text.Padded

/-!
# Written dates

A date of a year with four digits is written as `YYYY-MM-DD` and read back from it.

Main statement: `Date.ofText?_toText`.
-/

namespace ReportQuery

namespace Text

theorem isBlank_of_isDigit {c : Char} (h : isDigit c = true) : isBlank c = false := by
  have := isDigit_iff.1 h
  simp [isBlank]
  omega

theorem trimStart_of_isDigit {c : Char} (h : isDigit c = true) (rest : List Char) :
    trimStart (c :: rest) = c :: rest := by
  unfold trimStart
  rw [List.dropWhile_cons, isBlank_of_isDigit h, if_neg Bool.false_ne_true]

theorem exists_padded_eq_cons (width n : Nat) :
    ∃ c rest, padded width n = c :: rest ∧ isDigit c = true := by
  have hall := all_isDigit_padded width n
  cases hp : padded width n with
  | nil =>
    unfold padded at hp
    simp [natDigits_ne_nil] at hp
  | cons c rest =>
    rw [hp, List.all_cons, Bool.and_eq_true] at hall
    exact ⟨c, rest, rfl, hall.1⟩

end Text

namespace Date

/-- The year is written with four digits and no sign. -/
def FourDigitYear (d : Date) : Prop := 0 ≤ d.civil.year ∧ d.civil.year ≤ 9999

instance (d : Date) : Decidable d.FourDigitYear := inferInstanceAs (Decidable (_ ∧ _))

theorem toText_eq {d : Date} (h : d.FourDigitYear) :
    d.toText = Text.padded 4 d.civil.year.toNat ++ '-' :: Text.padded 2 d.civil.month ++
      '-' :: Text.padded 2 d.civil.day := by
  unfold toText yearText
  simp only
  rw [if_pos (show 0 ≤ d.civil.year ∧ d.civil.year ≤ 9999 from h)]

theorem exists_toText_eq_cons (d : Date) : ∃ c rest, d.toText = c :: rest ∧ c ≠ 'n' := by
  unfold toText yearText
  simp only
  split
  · obtain ⟨c, rest, hcons, hdigit⟩ := Text.exists_padded_eq_cons 4 d.civil.year.toNat
    rw [hcons]
    refine ⟨c, _, rfl, ?_⟩
    rintro rfl
    exact absurd hdigit (by decide)
  · refine ⟨_, _, rfl, ?_⟩
    split <;> decide

theorem year_lt {d : Date} (h : d.FourDigitYear) : d.civil.year.toNat < power 10 4 := by
  have := h.2
  have hwidth : power 10 4 = 10000 := rfl
  omega

theorem month_lt (d : Date) : d.civil.month < power 10 2 :=
  Nat.lt_of_le_of_lt d.valid_civil.month_le (by decide)

theorem day_lt (d : Date) : d.civil.day < power 10 2 :=
  Nat.lt_of_le_of_lt d.valid_civil.day_le (by decide)

/-! ## Reading -/

theorem readNumber?_padded {width n : Nat} (h : n < power 10 (width + 1)) (rest : List Char) :
    readNumber? (width + 1) (Text.padded (width + 1) n ++ rest) = some (n, rest) := by
  obtain ⟨c, tail, hcons, hdigit⟩ := Text.exists_padded_eq_cons (width + 1) n
  have htrim : Text.trimStart (Text.padded (width + 1) n ++ rest) =
      Text.padded (width + 1) n ++ rest := by
    rw [hcons, List.cons_append, Text.trimStart_of_isDigit hdigit]
  have hdigits : ((Text.padded (width + 1) n ++ rest).take (width + 1)).takeWhile Text.isDigit =
      Text.padded (width + 1) n := by
    rw [List.take_left' (Text.length_padded h),
      Text.takeWhile_eq_self (Text.all_isDigit_padded _ _)]
  unfold readNumber?
  simp only [htrim, hdigits, Text.digitsValue_padded, List.drop_left]
  rw [if_neg (by rw [hcons]; exact List.cons_ne_nil _ _)]

theorem readYear?_padded {n : Nat} (h : n < power 10 4) (rest : List Char) :
    readYear? (Text.padded 4 n ++ rest) = some ((n : Int), rest) := by
  obtain ⟨c, tail, hcons, hdigit⟩ := Text.exists_padded_eq_cons 4 n
  have hread := readNumber?_padded h rest
  have hbounds := Text.isDigit_iff.1 hdigit
  rw [hcons, List.cons_append] at hread ⊢
  unfold readYear?
  simp only [Text.trimStart_of_isDigit hdigit]
  split
  · next heq =>
    rw [List.cons.injEq] at heq
    rw [heq.1] at hbounds
    exact absurd hbounds (by decide)
  · next heq =>
    rw [List.cons.injEq] at heq
    rw [heq.1] at hbounds
    exact absurd hbounds (by decide)
  · rw [hread]
    rfl

theorem readDate?_toText {d : Date} (h : d.FourDigitYear) :
    readDate? d.toText = some (d.civil, []) := by
  have hmonth := fun rest => readNumber?_padded d.month_lt rest
  have hday := readNumber?_padded d.day_lt []
  rw [List.append_nil] at hday
  unfold readDate?
  rw [toText_eq h, List.append_assoc, readYear?_padded (year_lt h), Int.toNat_of_nonneg h.1]
  simp [readChar?, hmonth, hday]

theorem ofText?_toText {d : Date} (h : d.FourDigitYear) : ofText? d.toText = some d := by
  unfold ofText?
  rw [readDate?_toText h]
  simp [ofCivil?_civil]

end Date

end ReportQuery
