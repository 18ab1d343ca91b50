import ReportQuery.Number.Powers
import ReportQuery.Proofs.Text.Runs
import ReportQuery.Text.Digits

/-!
# Numbers of a fixed width

A number that fits a width is padded to exactly that many digits, is read back from them, and comes
before every larger one in the order of texts.

Main statements: `digitsValue_padded`, `padded_append_lt`.
-/

namespace ReportQuery.Text

/-! ## Digits -/

theorem isDigit_iff {c : Char} : isDigit c = true ↔ 48 ≤ c.toNat ∧ c.toNat ≤ 57 := by
  unfold isDigit
  rw [Bool.and_eq_true, decide_eq_true_eq, decide_eq_true_eq]
  exact Iff.rfl

theorem digitChar_lt_digitChar {m n : Nat} (h : m < n) (hn : n < 10) :
    digitChar m < digitChar n := by
  have hall : ∀ a b : Fin 10, a < b → digitChar a.val < digitChar b.val := by decide
  exact hall ⟨m, Nat.lt_trans h hn⟩ ⟨n, hn⟩ h

theorem digitValue_lt {c : Char} (h : isDigit c = true) : digitValue c < 10 := by
  have := isDigit_iff.1 h
  unfold digitValue
  omega

theorem digitsValue_append (digits more : List Char) :
    digitsValue (digits ++ more) =
      digitsValue digits * power 10 more.length + digitsValue more := by
  have hfrom : ∀ n, more.foldl (fun n c => n * 10 + digitValue c) n =
      n * power 10 more.length + digitsValue more := by
    induction more with
    | nil => intro n; simp [digitsValue]
    | cons c more ih =>
      intro n
      simp only [digitsValue, List.foldl_cons, List.length_cons, power_succ] at ih ⊢
      rw [ih, ih (0 * 10 + digitValue c), Nat.add_mul, Nat.zero_mul, Nat.zero_add, Nat.mul_assoc,
        Nat.mul_comm 10, Nat.add_assoc]
  rw [digitsValue, List.foldl_append, hfrom]
  rfl

theorem digitsValue_lt {digits : List Char} (h : digits.all isDigit = true) :
    digitsValue digits < power 10 digits.length := by
  induction digits with
  | nil => exact power_pos 10 0 (by decide)
  | cons c rest ih =>
    rw [List.all_cons, Bool.and_eq_true] at h
    have hfirst : digitsValue [c] ≤ 9 := by
      have := digitValue_lt h.1
      simp only [digitsValue, List.foldl_cons, List.foldl_nil]
      omega
    have hle := Nat.mul_le_mul_right (power 10 rest.length) hfirst
    have hrest := ih h.2
    rw [← List.singleton_append, digitsValue_append, List.singleton_append, List.length_cons,
      power_succ]
    omega

/-! ## Padding -/

theorem padded_one {n : Nat} (h : n < 10) : padded 1 n = [digitChar n] := by
  unfold padded
  rw [natDigits, if_pos h]
  rfl

theorem padded_succ (width n : Nat) :
    padded (width + 2) n = padded (width + 1) (n / 10) ++ [digitChar (n % 10)] := by
  unfold padded
  by_cases h : n < 10
  · have hzero : natDigits (n / 10) = ['0'] := by
      rw [Nat.div_eq_of_lt h, natDigits, if_pos (by decide)]
      rfl
    rw [hzero, natDigits, if_pos h, Nat.mod_eq_of_lt h]
    simp [List.replicate_succ']
  · have hstep : natDigits n = natDigits (n / 10) ++ [digitChar (n % 10)] := by
      rw [natDigits, if_neg h]
    rw [hstep]
    simp

theorem padded_two {n : Nat} (h : n < 100) :
    padded 2 n = [digitChar (n / 10), digitChar (n % 10)] := by
  rw [padded_succ, padded_one (by omega)]
  rfl

variable {width m n : Nat}

theorem length_padded (h : n < power 10 (width + 1)) :
    (padded (width + 1) n).length = width + 1 := by
  induction width generalizing n with
  | zero =>
    have h : n < 10 := h
    rw [padded_one h, List.length_singleton]
  | succ width ih =>
    rw [power_succ] at h
    rw [padded_succ, List.length_append, ih (by omega), List.length_singleton]

theorem width_le_length_padded (width n : Nat) : width ≤ (padded width n).length := by
  unfold padded
  rw [List.length_append, List.length_replicate]
  omega

theorem all_isDigit_padded (width n : Nat) : (padded width n).all isDigit = true := by
  unfold padded
  rw [List.all_append, natDigits_all, Bool.and_true, List.all_replicate]
  simp [isDigit]

theorem digitsValue_padded (width n : Nat) : digitsValue (padded width n) = n := by
  have hzeros : ∀ count, digitsValue (List.replicate count '0' ++ natDigits n) = n := by
    intro count
    induction count with
    | zero => exact digitsValue_natDigits n
    | succ count ih => exact ih
  exact hzeros _

/-! ## Order -/

theorem padded_append_lt (h : m < n) (hn : n < power 10 (width + 1)) (rest rest' : List Char) :
    padded (width + 1) m ++ rest < padded (width + 1) n ++ rest' := by
  induction width generalizing m n rest rest' with
  | zero =>
    have hn : n < 10 := hn
    rw [padded_one hn, padded_one (Nat.lt_trans h hn), List.singleton_append, List.singleton_append,
      List.cons_lt_cons_iff]
    exact .inl (digitChar_lt_digitChar h hn)
  | succ width ih =>
    rw [power_succ] at hn
    rw [padded_succ, padded_succ, List.append_assoc, List.append_assoc]
    by_cases hlead : m / 10 < n / 10
    · exact ih hlead (by omega) _ _
    · have hsame : m / 10 = n / 10 := by omega
      rw [hsame]
      refine List.append_left_lt ?_
      rw [List.singleton_append, List.singleton_append, List.cons_lt_cons_iff]
      exact .inl (digitChar_lt_digitChar (by omega) (Nat.mod_lt n (by decide)))

theorem append_cons_lt (field : List Char) (separator : Char) {rest rest' : List Char}
    (h : rest < rest') : field ++ separator :: rest < field ++ separator :: rest' :=
  List.append_left_lt (List.cons_lt_cons_iff.2 (.inr ⟨rfl, h⟩))

end ReportQuery.Text
