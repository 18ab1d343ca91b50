import ReportQuery.Filter.Key

/-!
# Reading filter keys

A key is cut at its first two underscores. So a field name takes suffixes only if it has no two
underscores in a row and does not end in one; any other key with a suffix is read as a name as a
whole. Either way all of the key is kept, so that different keys are read as different ones.

Main statement: `ofText_decodes`.
-/

namespace ReportQuery.Filter

/-! ## Suffixes -/

/-- The suffix of each operator that has one. -/
inductive Operator.HasSuffix : Operator → String → Prop
  | isIn : HasSuffix .isIn "in"
  | gte : HasSuffix .gte "gte"
  | lte : HasSuffix .lte "lte"
  | gt : HasSuffix .gt "gt"
  | lt : HasSuffix .lt "lt"
  | ne : HasSuffix .ne "ne"
  | regex : HasSuffix .regex "regex"
  | like : HasSuffix .like "like"
  | «exists» : HasSuffix .exists "exists"

theorem Operator.ofSuffix?_eq_some_iff {suffix : List Char} {operator : Operator} :
    ofSuffix? suffix = some operator ↔ operator.HasSuffix (String.ofList suffix) := by
  constructor
  · intro h
    have hname := List.find?_some h
    have hmem := List.mem_of_find?_eq_some h
    rw [decide_eq_true_eq] at hname
    rw [← hname, String.ofList_toList]
    cases operator with
    | eq => exact absurd hmem (by decide)
    | _ => constructor
  · generalize hs : String.ofList suffix = s
    intro h
    obtain rfl : suffix = s.toList := by rw [← hs, String.toList_ofList]
    cases h <;> decide

theorem Operator.HasSuffix.eq_name {operator : Operator} {suffix : String}
    (h : operator.HasSuffix suffix) : suffix = operator.name := by
  cases h <;> rfl

theorem Operator.HasSuffix.ne_eq {operator : Operator} {suffix : String}
    (h : operator.HasSuffix suffix) : operator ≠ .eq := by
  rintro rfl
  cases h

/-! ## Names -/

/-- A name that a suffix can follow: it has no two underscores in a row and does not end in one. -/
structure TakesSuffix (field : String) : Prop where
  noPair : ¬['_', '_'] <:+: field.toList
  noEnd : field.toList.getLast? ≠ some '_'

/-- The key is a name that takes suffixes, with the suffix of the operator behind it. -/
structure Carries (key field : String) (operator : Operator) : Prop where
  name : TakesSuffix field
  suffix : ∃ suffix, operator.HasSuffix suffix ∧ key = field ++ "__" ++ suffix

theorem pair_infix_concat {c : Char} {text : List Char} :
    [c, c] <:+: text ++ [c] ↔ [c, c] <:+: text ∨ text.getLast? = some c := by
  -- A pair that the last character completes ends the text.
  have hend : [c, c] <:+ text ++ [c] ↔ text.getLast? = some c := by
    rw [List.getLast?_eq_some_iff]
    constructor
    · rintro ⟨front, h⟩
      rw [List.append_cons] at h
      exact ⟨front, (List.append_cancel_right h).symm⟩
    · rintro ⟨front, rfl⟩
      exact ⟨front, List.append_cons _ _ _⟩
  rw [List.infix_concat_iff, hend, or_comm]

theorem splitOnce_eq_some_iff {key field suffix : List Char} :
    Text.splitOnce Key.separator key = some (field, suffix) ↔
      key = field ++ "__".toList ++ suffix ∧ TakesSuffix (String.ofList field) := by
  have htakes : TakesSuffix (String.ofList field) ↔ ¬['_', '_'] <:+: field ++ ['_'] := by
    rw [pair_infix_concat, not_or]
    constructor
    · rintro ⟨hpair, hend⟩
      exact ⟨by simpa using hpair, by simpa using hend⟩
    · rintro ⟨hpair, hend⟩
      exact ⟨by simpa using hpair, by simpa using hend⟩
  rw [Key.separator, Text.splitOnce_double_eq_some_iff, htakes, List.append_assoc]
  rfl

/-! ## Keys -/

variable {key field : String} {operator : Operator}

theorem Carries.ofText_eq (h : Carries key field operator) : Key.ofText key = ⟨field, operator⟩ := by
  obtain ⟨suffix, hsuffix, rfl⟩ := h.suffix
  have hcut : Text.splitOnce Key.separator (field ++ "__" ++ suffix).toList =
      some (field.toList, suffix.toList) := by
    refine splitOnce_eq_some_iff.2 ⟨?_, ?_⟩
    · rw [String.toList_append, String.toList_append]
    · rw [String.ofList_toList]
      exact h.name
  have hoperator : Operator.ofSuffix? suffix.toList = some operator := by
    rw [Operator.ofSuffix?_eq_some_iff, String.ofList_toList]
    exact hsuffix
  simp only [Key.ofText, Key.ofChars, hcut, hoperator, String.ofList_toList]

theorem ofText_eq_or_carries (key : String) :
    Key.ofText key = ⟨key, .eq⟩ ∨ Carries key (Key.ofText key).field (Key.ofText key).operator := by
  cases hcut : Text.splitOnce Key.separator key.toList with
  | none =>
    refine .inl ?_
    simp only [Key.ofText, Key.ofChars, hcut, String.ofList_toList]
  | some pieces =>
    obtain ⟨field, suffix⟩ := pieces
    cases hoperator : Operator.ofSuffix? suffix with
    | none =>
      refine .inl ?_
      simp only [Key.ofText, Key.ofChars, hcut, hoperator, String.ofList_toList]
    | some operator =>
      refine .inr ?_
      obtain ⟨hkey, hname⟩ := splitOnce_eq_some_iff.1 hcut
      have hcarries : Carries key (String.ofList field) operator := by
        refine ⟨hname, String.ofList suffix, Operator.ofSuffix?_eq_some_iff.1 hoperator, ?_⟩
        rw [← String.toList_inj, hkey]
        simp only [String.toList_append, String.toList_ofList]
      rw [hcarries.ofText_eq]
      exact hcarries

theorem Carries.operator_ne (h : Carries key field operator) : operator ≠ .eq := by
  obtain ⟨suffix, hsuffix, -⟩ := h.suffix
  exact hsuffix.ne_eq

theorem carries_iff : Carries key field operator ↔ Key.ofText key = ⟨field, operator⟩ ∧ operator ≠ .eq := by
  constructor
  · intro h
    exact ⟨h.ofText_eq, h.operator_ne⟩
  · rintro ⟨h, hne⟩
    rcases ofText_eq_or_carries key with hwhole | hcarries
    · rw [hwhole, Key.mk.injEq] at h
      exact absurd h.2.symm hne
    · rwa [h] at hcarries

theorem Key.field_ofText_of_eq (h : (ofText key).operator = .eq) : (ofText key).field = key := by
  rcases ofText_eq_or_carries key with hwhole | hcarries
  · rw [hwhole]
  · exact absurd h hcarries.operator_ne

/-- The key that a name and an operator make. -/
def Key.text (key : Key) : String :=
  if key.operator = .eq then key.field else key.field ++ "__" ++ key.operator.name

theorem Key.text_ofText (key : String) : (Key.ofText key).text = key := by
  rcases ofText_eq_or_carries key with hwhole | hcarries
  · rw [hwhole]
    rfl
  · obtain ⟨suffix, hsuffix, hkey⟩ := hcarries.suffix
    rw [Key.text, if_neg hsuffix.ne_eq, ← hsuffix.eq_name, ← hkey]

/-- A key is read as a name with an operator exactly when it is a name that takes suffixes with the
suffix of that operator behind it, and else as a name as a whole. The key is known from what it is
read as. -/
theorem ofText_decodes :
    (∀ key field operator, Key.ofText key = ⟨field, operator⟩ ∧ operator ≠ .eq ↔
        Carries key field operator) ∧
      (∀ key, Key.ofText key = ⟨key, .eq⟩ ↔ ∀ field operator, ¬Carries key field operator) ∧
      (∀ field operator suffix, TakesSuffix field → operator.HasSuffix suffix →
        Key.ofText (field ++ "__" ++ suffix) = ⟨field, operator⟩) ∧
      Function.Injective Key.ofText ∧
      ∀ key, (Key.ofText key).text = key := by
  refine ⟨fun _ _ _ => carries_iff.symm, ?_, ?_, ?_, Key.text_ofText⟩
  · intro key
    constructor
    · intro h field operator hcarries
      rw [hcarries.ofText_eq, Key.mk.injEq] at h
      exact hcarries.operator_ne h.2
    · intro hnone
      exact (ofText_eq_or_carries key).resolve_right (hnone _ _)
  · intro field operator suffix hname hsuffix
    exact Carries.ofText_eq ⟨hname, suffix, hsuffix, rfl⟩
  · intro key other h
    rw [← Key.text_ofText key, h, Key.text_ofText]

theorem ofText_decodes_of_id :
    TakesSuffix "_id" ∧ Operator.isIn.HasSuffix "in" ∧ Key.ofText "_id__in" = ⟨"_id", .isIn⟩ := by
  have hname : TakesSuffix "_id" := ⟨by decide, by decide⟩
  exact ⟨hname, .isIn, ofText_decodes.2.2.1 "_id" .isIn "in" hname .isIn⟩

end ReportQuery.Filter
