import ReportQuery.Display.Number
import ReportQuery.Proofs.Decimal.Figure

/-!
# Reading a number back

A number's text tells the rounded number, in every locale: without group separators, and with a
point for the locale's own, it is a figure with that value. The figure's digits say how the text is
laid out.

Main statement: `number_shows`.
-/

namespace ReportQuery

namespace Locale

/-! ## Groups of three -/

/-- `text` is the digits in groups of three with separators between them. Only the first group may
be shorter. -/
def InThrees (separator : Char) (digits text : List Char) : Prop :=
  ∃ (first : List Char) (more : List (List Char)), 1 ≤ first.length ∧ first.length ≤ 3 ∧
    (∀ group ∈ more, group.length = 3) ∧ digits = first ++ more.flatten ∧
    text = first ++ more.flatMap (separator :: ·)

theorem length_flatten_threes {more : List (List Char)} (h : ∀ group ∈ more, group.length = 3) :
    more.flatten.length = 3 * more.length := by
  rw [List.length_flatten, List.map_congr_left h, List.map_const', List.sum_replicate_nat,
    Nat.mul_comm]

theorem inThrees_groupThrees (separator : Char) {digits : List Char} (h : digits ≠ []) :
    InThrees separator digits (groupThrees separator digits) := by
  induction digits with
  | nil => exact absurd rfl h
  | cons c rest ih =>
    by_cases hrest : rest = []
    · subst hrest
      exact ⟨[c], [], by simp, by simp, by simp, by simp, by simp [groupThrees]⟩
    · obtain ⟨first, more, hpos, hle, hthree, hdigits, htext⟩ := ih hrest
      have hlength : rest.length = first.length + 3 * more.length := by
        rw [hdigits, List.length_append, length_flatten_threes hthree]
      by_cases hfull : rest.length % 3 = 0
      · -- The first group of the rest is a whole one, and `c` begins another.
        have hfirst : first.length = 3 := by omega
        refine ⟨[c], first :: more, by simp, by simp, ?_, ?_, ?_⟩
        · exact List.forall_mem_cons.2 ⟨hfirst, hthree⟩
        · rw [List.flatten_cons, ← hdigits, List.singleton_append]
        · rw [groupThrees, if_pos ⟨hrest, hfull⟩, htext]
          simp
      · refine ⟨c :: first, more, ?_, ?_, hthree, ?_, ?_⟩
        · exact Nat.le_add_left 1 _
        · rw [List.length_cons]
          omega
        · rw [hdigits, List.cons_append]
        · rw [groupThrees, if_neg (fun h => hfull h.2), htext, List.cons_append]

section Separators

variable {separator : Char} {digits text : List Char}

theorem InThrees.filter_ne (h : InThrees separator digits text) (hnotin : separator ∉ digits) :
    text.filter (· ≠ separator) = digits := by
  obtain ⟨first, more, -, -, -, rfl, rfl⟩ := h
  have hkeep : ∀ part : List Char, separator ∉ part → part.filter (· ≠ separator) = part := by
    intro part hpart
    refine List.filter_eq_self.2 fun c hc => decide_eq_true ?_
    rintro rfl
    exact hpart hc
  rw [List.mem_append, not_or] at hnotin
  rw [List.filter_append, hkeep _ hnotin.1, List.append_cancel_left_eq]
  induction more with
  | nil => rfl
  | cons group more ih =>
    rw [List.flatten_cons, List.mem_append, not_or] at hnotin
    rw [List.flatMap_cons, List.filter_append, ih ⟨hnotin.1, hnotin.2.2⟩, List.flatten_cons,
      List.filter_cons_of_neg (by simp), hkeep _ hnotin.2.1]

theorem InThrees.mem_iff (h : InThrees separator digits text) (hnotin : separator ∉ digits) :
    separator ∈ text ↔ 4 ≤ digits.length := by
  obtain ⟨first, more, hpos, hle, hthree, rfl, rfl⟩ := h
  rw [List.mem_append, not_or] at hnotin
  rw [List.mem_append, or_iff_right hnotin.1, List.length_append, length_flatten_threes hthree]
  cases more with
  | nil => simpa using Nat.lt_succ_of_le hle
  | cons group more =>
    rw [List.flatMap_cons, List.cons_append, List.length_cons]
    exact iff_of_true List.mem_cons_self (by omega)

theorem InThrees.head? (h : InThrees separator digits text) : text.head? = digits.head? := by
  obtain ⟨first, more, hpos, -, -, rfl, rfl⟩ := h
  obtain ⟨c, rest, rfl⟩ := List.exists_cons_of_length_pos hpos
  rfl

end Separators

/-! ## The table -/

/-- The characters that a number is written with are told apart. -/
structure Distinct (l : Locale) : Prop where
  group_ne_point : l.group ≠ l.point
  group_ne_minus : l.group ≠ '-'
  point_ne_minus : l.point ≠ '-'
  group_not_digit : Text.isDigit l.group = false
  point_not_digit : Text.isDigit l.point = false
  /-- A single group is never counted as grouped. -/
  four_le : 4 ≤ l.minGrouping

theorem distinct_of_mem {l : Locale} (h : l ∈ all) : l.Distinct := by
  have hall : ∀ l ∈ all, l.group ≠ l.point ∧ l.group ≠ '-' ∧ l.point ≠ '-' ∧
      Text.isDigit l.group = false ∧ Text.isDigit l.point = false ∧ 4 ≤ l.minGrouping := by
    decide
  obtain ⟨hne, hgroup, hpoint, hgroupDigit, hpointDigit, hfour⟩ := hall l h
  exact ⟨hne, hgroup, hpoint, hgroupDigit, hpointDigit, hfour⟩

/-! ## Reading -/

/-- The text without group separators, and with a point for the locale's own. -/
def plain (l : Locale) (text : List Char) : List Char :=
  (text.filter (· ≠ l.group)).map fun c => if c = l.point then '.' else c

variable {l : Locale}

theorem plain_append (text more : List Char) :
    l.plain (text ++ more) = l.plain text ++ l.plain more := by
  rw [plain, List.filter_append, List.map_append]
  rfl

theorem Distinct.group_notMem (hl : l.Distinct) {digits : List Char}
    (h : digits.all Text.isDigit = true) : l.group ∉ digits := by
  intro hmem
  have hdigit := List.all_eq_true.1 h _ hmem
  rw [hl.group_not_digit] at hdigit
  cases hdigit

theorem Distinct.plain_eq_filter (hl : l.Distinct) {text digits : List Char}
    (hfilter : text.filter (· ≠ l.group) = digits) (h : digits.all Text.isDigit = true) :
    l.plain text = digits := by
  rw [plain, hfilter]
  refine (List.map_congr_left fun c hc => if_neg ?_).trans (List.map_id _)
  rintro rfl
  have hdigit := List.all_eq_true.1 h _ hc
  rw [hl.point_not_digit] at hdigit
  cases hdigit

theorem Distinct.plain_digits (hl : l.Distinct) {digits : List Char}
    (h : digits.all Text.isDigit = true) : l.plain digits = digits := by
  refine hl.plain_eq_filter (List.filter_eq_self.2 fun c hc => decide_eq_true ?_) h
  rintro rfl
  exact hl.group_notMem h hc

theorem Distinct.integerText_reads (hl : l.Distinct) {digits : List Char} (hne : digits ≠ [])
    (h : digits.all Text.isDigit = true) :
    l.plain (l.integerText digits) = digits ∧
      (l.group ∈ l.integerText digits ↔ l.minGrouping ≤ digits.length) ∧
      (l.integerText digits).head? = digits.head? := by
  have hnotin := hl.group_notMem h
  by_cases hshort : digits.length < l.minGrouping
  · rw [integerText, if_pos hshort]
    exact ⟨hl.plain_digits h, iff_of_false hnotin (Nat.not_le.2 hshort), rfl⟩
  · rw [integerText, if_neg hshort]
    have hthrees := inThrees_groupThrees l.group hne
    have hlong := Nat.not_lt.1 hshort
    refine ⟨hl.plain_eq_filter (hthrees.filter_ne hnotin) h, ?_, hthrees.head?⟩
    exact iff_of_true ((hthrees.mem_iff hnotin).2 (hl.four_le.trans hlong)) hlong

theorem Distinct.group_mem_textWith (hl : l.Distinct) (f : Figure) (integer : List Char) :
    l.group ∈ f.textWith l.point integer ↔ l.group ∈ integer := by
  have hsign : l.group ∉ if f.negative then ['-'] else [] := by
    cases f.negative <;> simp [hl.group_ne_minus]
  have hfraction : l.group ∉ if f.fraction = [] then [] else l.point :: f.fraction := by
    split
    · exact List.not_mem_nil
    · rw [List.mem_cons, not_or]
      exact ⟨hl.group_ne_point, hl.group_notMem f.all_fraction⟩
  rw [Figure.textWith, List.mem_append, List.mem_append, or_iff_left hfraction,
    or_iff_right hsign]

theorem Distinct.plain_textWith (hl : l.Distinct) (f : Figure) {integer : List Char}
    (h : l.plain integer = f.whole) : l.plain (f.textWith l.point integer) = f.text := by
  have hsign : l.plain (if f.negative then ['-'] else []) = if f.negative then ['-'] else [] := by
    split
    · simp [plain, hl.group_ne_minus.symm, hl.point_ne_minus.symm]
    · rfl
  have hpoint : l.plain [l.point] = ['.'] := by
    simp [plain, hl.group_ne_point.symm]
  rw [Figure.textWith, plain_append, plain_append, hsign, h, Figure.text, Figure.textWith]
  congr 1
  split
  · rfl
  · rw [← List.singleton_append, plain_append, hpoint, hl.plain_digits f.all_fraction,
      List.singleton_append]

/-! ## Fraction digits -/

variable {least most : Nat} {fraction : List Char}

theorem pointValue_fitFraction (least : Nat) (whole fraction : List Char) :
    pointValue whole (fitFraction least fraction) = pointValue whole fraction := by
  obtain ⟨count, hcount⟩ := (Text.exists_trimTrailing '0' fraction).1
  rw [fitFraction, pointValue_append_zeros]
  conv_rhs => rw [hcount, pointValue_append_zeros]

theorem all_fitFraction (h : fraction.all Text.isDigit = true) :
    (fitFraction least fraction).all Text.isDigit = true := by
  obtain ⟨count, hcount⟩ := (Text.exists_trimTrailing '0' fraction).1
  rw [hcount, List.all_append, Bool.and_eq_true] at h
  rw [fitFraction, List.all_append, h.1, Bool.true_and, List.all_replicate]
  simp [Text.isDigit]

theorem length_fitFraction (least : Nat) (fraction : List Char) :
    least ≤ (fitFraction least fraction).length ∧
      (fitFraction least fraction).length ≤ max least fraction.length := by
  obtain ⟨count, hcount⟩ := (Text.exists_trimTrailing '0' fraction).1
  have hlength := congrArg List.length hcount
  rw [List.length_append] at hlength
  rw [fitFraction, List.length_append, List.length_replicate]
  omega

theorem getLast?_fitFraction (h : least < (fitFraction least fraction).length) :
    (fitFraction least fraction).getLast? ≠ some '0' := by
  have hnone : least - (Text.trimTrailing '0' fraction).length = 0 := by
    rw [fitFraction, List.length_append, List.length_replicate] at h
    omega
  rw [fitFraction, hnone, List.replicate_zero, List.append_nil]
  exact (Text.exists_trimTrailing '0' fraction).2

/-! ## The figure of a number -/

/-- The digits that are shown of a rounded number, with a sign unless it is zero. -/
def figure (least : Nat) (shown : Decimal) : Figure where
  negative := shown.negative && !shown.isZero
  whole := shown.digitParts.1
  fraction := fitFraction least shown.digitParts.2
  whole_ne_nil := shown.figure.whole_ne_nil
  all_whole := shown.figure.all_whole
  all_fraction := all_fitFraction shown.figure.all_fraction

theorem negative_figure (least : Nat) (shown : Decimal) :
    (figure least shown).negative = true ↔ shown.value < 0 := by
  rw [Decimal.value_lt_zero_iff]
  simp [figure]

theorem value_figure (least : Nat) (shown : Decimal) :
    (figure least shown).value = shown.value := by
  have hmagnitude : pointValue (figure least shown).whole (figure least shown).fraction =
      |shown.value| := by
    rw [figure, pointValue_fitFraction, Decimal.pointValue_digitParts, Decimal.abs_value]
  rw [Figure.value, hmagnitude]
  split
  · next h => rw [abs_of_neg ((negative_figure least shown).1 h), neg_neg]
  · next h => rw [abs_of_nonneg (not_lt.1 ((negative_figure least shown).not.1 h))]

theorem number_eq (least most : Nat) (d : Decimal) : l.number least most d =
    (figure least (d.round most)).textWith l.point
      (l.integerText (figure least (d.round most)).whole) := by
  have hmagnitude : l.magnitudeText least (d.round most) =
      l.integerText (figure least (d.round most)).whole ++
        l.fractionText (figure least (d.round most)).fraction := rfl
  have hsign : l.number least most d = if (figure least (d.round most)).negative then
      '-' :: l.magnitudeText least (d.round most) else l.magnitudeText least (d.round most) := rfl
  rw [hsign, hmagnitude, fractionText, Figure.textWith]
  split <;> simp

/-! ## What a number's text shows -/

/-- A reader finds `f` in the text of a number whose rounded value is `q`. -/
structure Shows (l : Locale) (least most : Nat) (q : ℚ) (text : List Char) (f : Figure) : Prop where
  reads : l.plain text = f.text
  value : f.value = q
  least_le : least ≤ f.fraction.length
  le_most : f.fraction.length ≤ most
  last_ne_zero : least < f.fraction.length → f.fraction.getLast? ≠ some '0'
  grouped : l.minGrouping ≤ f.whole.length →
    ∃ integer, InThrees l.group f.whole integer ∧ text = f.textWith l.point integer
  ungrouped : f.whole.length < l.minGrouping → text = f.textWith l.point f.whole
  separated : l.group ∈ text ↔ l.minGrouping ≤ f.whole.length
  minus : text.head? = some '-' ↔ q < 0

theorem Shows.unique {q : ℚ} {text : List Char} {f g : Figure} (hf : l.Shows least most q text f)
    (hg : l.Shows least most q text g) : f = g :=
  Figure.text_injective (hf.reads.symm.trans hg.reads)

theorem Distinct.shows_figure (hl : l.Distinct) (h : least ≤ most) (d : Decimal) :
    l.Shows least most (roundAway most d.value) (l.number least most d)
      (figure least (d.round most)) := by
  let f := figure least (d.round most)
  have htext : l.number least most d = f.textWith l.point (l.integerText f.whole) :=
    number_eq least most d
  obtain ⟨hplain, hmem, hhead⟩ := hl.integerText_reads f.whole_ne_nil f.all_whole
  have hlength := length_fitFraction least (d.round most).digitParts.2
  rw [(d.round most).length_digitParts.2] at hlength
  rw [← Decimal.value_round]
  refine ⟨?_, value_figure least _, hlength.1, ?_, getLast?_fitFraction, ?_, ?_, ?_, ?_⟩
  · rw [htext, hl.plain_textWith f hplain]
  · exact hlength.2.trans (Nat.max_le.2 ⟨h, d.round_scale_le most⟩)
  · intro hlong
    rw [htext, integerText, if_neg (Nat.not_lt.2 hlong)]
    exact ⟨_, inThrees_groupThrees l.group f.whole_ne_nil, rfl⟩
  · intro hshort
    rw [htext, integerText, if_pos hshort]
  · rw [htext, hl.group_mem_textWith, hmem]
  · have hne : l.integerText f.whole ≠ [] := by
      intro hnil
      rw [hnil] at hplain
      exact f.whole_ne_nil hplain.symm
    rw [htext, f.head?_textWith hne (hhead ▸ Figure.head?_ne_of_all f.all_whole)]
    exact negative_figure least _

/-- The text of a number shows it rounded, half a unit going away from zero, and nothing else. -/
theorem number_shows {l : Locale} (hl : l ∈ all) {least most : Nat} (h : least ≤ most)
    (d : Decimal) :
    ∃! f : Figure, l.Shows least most (roundAway most d.value) (l.number least most d) f := by
  have hshows := (distinct_of_mem hl).shows_figure h d
  exact ⟨_, hshows, fun g hg => hg.unique hshows⟩

theorem number_shows_in_groups :
    esES ∈ all ∧ 1 ≤ 2 ∧
      esES.number 1 2 ⟨true, 1234567895, 5, by decide, by decide⟩ = "-12.345,68".toList ∧
      ∃! f : Figure, esES.Shows 1 2
        (roundAway 2 (Decimal.value ⟨true, 1234567895, 5, by decide, by decide⟩))
        (esES.number 1 2 ⟨true, 1234567895, 5, by decide, by decide⟩) f :=
  ⟨by decide, by decide, by decide +kernel, number_shows (by decide) (by decide) _⟩

end Locale

end ReportQuery
