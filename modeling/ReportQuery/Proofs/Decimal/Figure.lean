import Mathlib.Data.List.DropRight
import ReportQuery.Proofs.Decimal.Value

/-!
# Figures

A figure is a number as a reader finds it written: digits, with a point between the integer digits
and the fraction digits if there are any of these, and a minus sign before them or none. What it is
worth follows from its text alone.

Main statements: `Figure.text_injective`, `Decimal.value_figure`, `Decimal.toText_eq_text`.
-/

namespace ReportQuery

namespace Text

theorem digitsValue_zeros (count : Nat) : digitsValue (List.replicate count '0') = 0 := by
  induction count with
  | zero => rfl
  | succ count ih => exact ih

theorem exists_trimTrailing (c : Char) (text : List Char) :
    (∃ count, text = trimTrailing c text ++ List.replicate count c) ∧
      (trimTrailing c text).getLast? ≠ some c := by
  have htrim : trimTrailing c text = text.rdropWhile (· = c) := rfl
  rw [htrim]
  constructor
  · have hall : ∀ d ∈ text.rtakeWhile (· = c), d = c := by
      intro d hd
      simpa using List.mem_rtakeWhile_imp hd
    refine ⟨(text.rtakeWhile (· = c)).length, ?_⟩
    rw [← List.eq_replicate_of_mem hall, List.rdropWhile_append_rtakeWhile]
  · intro hlast
    have hne : text.rdropWhile (· = c) ≠ [] := by
      intro hnil
      simp [hnil] at hlast
    exact List.rdropWhile_last_not _ _ hne
      (by simpa using (List.getLast_eq_iff_getLast?_eq_some hne).2 hlast)

end Text

/-! ## Figures and their worth -/

/-- A number as it is written: whether it has a minus sign, its integer digits, of which there is at
least one, and its fraction digits. -/
@[ext]
structure Figure where
  negative : Bool
  whole : List Char
  fraction : List Char
  whole_ne_nil : whole ≠ []
  all_whole : whole.all Text.isDigit = true
  all_fraction : fraction.all Text.isDigit = true

/-- What the digits before and after a point are worth. -/
def pointValue (whole fraction : List Char) : ℚ :=
  Text.digitsValue (whole ++ fraction) / 10 ^ fraction.length

theorem pointValue_append_zeros (whole fraction : List Char) (count : Nat) :
    pointValue whole (fraction ++ List.replicate count '0') = pointValue whole fraction := by
  unfold pointValue
  rw [← List.append_assoc, Text.digitsValue_append, Text.digitsValue_zeros, List.length_append,
    List.length_replicate, Nat.add_zero, Nat.cast_mul, Decimal.cast_power, pow_add]
  field_simp

namespace Figure

/-- The text with `point` before its fraction digits, and with its integer digits shown as
`integer`. -/
def textWith (point : Char) (integer : List Char) (f : Figure) : List Char :=
  (if f.negative then ['-'] else []) ++ integer ++
    if f.fraction = [] then [] else point :: f.fraction

def text (f : Figure) : List Char := f.textWith '.' f.whole

def value (f : Figure) : ℚ :=
  if f.negative then -pointValue f.whole f.fraction else pointValue f.whole f.fraction

/-- With more zeros behind the last fraction digit. -/
def withZeros (f : Figure) (count : Nat) : Figure where
  negative := f.negative
  whole := f.whole
  fraction := f.fraction ++ List.replicate count '0'
  whole_ne_nil := f.whole_ne_nil
  all_whole := f.all_whole
  all_fraction := by
    rw [List.all_append, f.all_fraction, Bool.true_and, List.all_replicate]
    simp [Text.isDigit]

theorem value_withZeros (f : Figure) (count : Nat) : (f.withZeros count).value = f.value := by
  simp only [value, withZeros, pointValue_append_zeros]

theorem text_withZeros (f : Figure) (count : Nat) : (f.withZeros count).text =
    f.text ++ (if f.fraction = [] ∧ count ≠ 0 then ['.'] else []) ++ List.replicate count '0' := by
  show (if f.negative then ['-'] else []) ++ f.whole ++
    (if f.fraction ++ List.replicate count '0' = [] then []
      else '.' :: (f.fraction ++ List.replicate count '0')) = _
  by_cases hfraction : f.fraction = [] <;> by_cases hcount : count = 0 <;>
    simp [text, textWith, hfraction, hcount]

theorem point_mem_text (f : Figure) : '.' ∈ f.text ↔ f.fraction ≠ [] := by
  have hsign : '.' ∉ if f.negative then ['-'] else [] := by
    cases f.negative <;> decide
  have hwhole : '.' ∉ f.whole := fun h =>
    absurd (List.all_eq_true.1 f.all_whole _ h) (by decide)
  rw [text, textWith, List.mem_append, List.mem_append, or_iff_right (not_or.2 ⟨hsign, hwhole⟩)]
  split
  · next h => simp [h]
  · next h => simp [h]

theorem head?_textWith {point : Char} {integer : List Char} (f : Figure) (hne : integer ≠ [])
    (hhead : integer.head? ≠ some '-') :
    (f.textWith point integer).head? = some '-' ↔ f.negative = true := by
  obtain ⟨c, rest, rfl⟩ := List.exists_cons_of_ne_nil hne
  cases hneg : f.negative with
  | true => simp [textWith, hneg]
  | false => simpa [textWith, hneg] using hhead

theorem head?_ne_of_all {digits : List Char} (h : digits.all Text.isDigit = true) :
    digits.head? ≠ some '-' := by
  intro hhead
  exact absurd (List.all_eq_true.1 h _ (List.mem_of_mem_head? hhead)) (by decide)

theorem head?_text (f : Figure) : f.text.head? = some '-' ↔ f.negative = true :=
  f.head?_textWith f.whole_ne_nil (head?_ne_of_all f.all_whole)

theorem text_injective : Function.Injective text := by
  intro f g h
  have hnegative : f.negative = g.negative := by
    rw [Bool.eq_iff_iff, ← head?_text, ← head?_text, h]
  have happart : ∀ f : Figure,
      Text.Apart Text.isDigit (if f.fraction = [] then [] else '.' :: f.fraction) := by
    intro f
    split
    · exact Text.apart_nil
    · exact Text.apart_cons.2 (by decide)
  simp only [text, textWith, hnegative, List.append_assoc] at h
  obtain ⟨hwhole, hfraction⟩ :=
    Text.run_unique f.all_whole g.all_whole (happart f) (happart g) (List.append_cancel_left h)
  refine Figure.ext hnegative hwhole ?_
  split at hfraction <;> split at hfraction <;> simp_all

end Figure

/-! ## The figure of a decimal -/

namespace Decimal

theorem digitParts_append (d : Decimal) :
    d.digitParts.1 ++ d.digitParts.2 = Text.padded (d.scale + 1) d.mantissa :=
  List.take_append_drop _ _

theorem length_digitParts (d : Decimal) :
    0 < d.digitParts.1.length ∧ d.digitParts.2.length = d.scale := by
  have hlength := Text.width_le_length_padded (d.scale + 1) d.mantissa
  simp only [digitParts, List.length_take, List.length_drop]
  omega

/-- The digits of a decimal with its sign. -/
def figure (d : Decimal) : Figure where
  negative := d.negative
  whole := d.digitParts.1
  fraction := d.digitParts.2
  whole_ne_nil := List.ne_nil_of_length_pos d.length_digitParts.1
  all_whole := by
    have hall := Text.all_isDigit_padded (d.scale + 1) d.mantissa
    rw [← digitParts_append, List.all_append, Bool.and_eq_true] at hall
    exact hall.1
  all_fraction := by
    have hall := Text.all_isDigit_padded (d.scale + 1) d.mantissa
    rw [← digitParts_append, List.all_append, Bool.and_eq_true] at hall
    exact hall.2

theorem pointValue_digitParts (d : Decimal) :
    pointValue d.digitParts.1 d.digitParts.2 = d.mantissa / 10 ^ d.scale := by
  rw [pointValue, digitParts_append, Text.digitsValue_padded, d.length_digitParts.2]

theorem value_figure (d : Decimal) : d.figure.value = d.value := by
  unfold Figure.value figure
  simp only [pointValue_digitParts]
  split
  · next h => rw [value_of_negative h]
  · next h => rw [value_of_nonneg (Bool.eq_false_of_not_eq_true h)]

theorem toText_eq_text (d : Decimal) : d.toText = d.figure.text := by
  have hscale : d.digitParts.2 = [] ↔ d.scale = 0 := by
    rw [← List.length_eq_zero_iff, d.length_digitParts.2]
  have hmagnitude : d.magnitudeText =
      d.digitParts.1 ++ if d.digitParts.2 = [] then [] else '.' :: d.digitParts.2 := by
    simp only [magnitudeText, hscale]
    split
    · rw [List.append_nil]
    · rfl
  rw [toText, hmagnitude, Figure.text, Figure.textWith]
  cases h : d.negative <;> simp [figure, h]

end Decimal

end ReportQuery
