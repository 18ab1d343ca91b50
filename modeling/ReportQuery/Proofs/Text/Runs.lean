/-!
# Runs of characters

A text that begins with a run of characters of one class, up to a character of another class, is cut
there in one way only.
-/

namespace ReportQuery.Text

/-- The text does not begin with a character of the class. -/
def Apart (p : Char → Bool) (text : List Char) : Prop := ∀ c ∈ text.head?, p c = false

variable {p q : Char → Bool} {c : Char} {run run' rest rest' : List Char}

theorem apart_nil : Apart p [] := by
  intro c h
  cases h

theorem apart_cons : Apart p (c :: rest) ↔ p c = false := by
  simp [Apart]

theorem Apart.mono (hsub : ∀ c, q c = true → p c = true) (h : Apart p rest) : Apart q rest := by
  intro c hc
  cases hq : q c
  · rfl
  · exact absurd (hsub c hq) (by simp [h c hc])

theorem Apart.append (hrun : Apart p run) (hrest : Apart p rest) : Apart p (run ++ rest) := by
  cases run with
  | nil => exact hrest
  | cons c run => exact apart_cons.2 (apart_cons.1 hrun)

theorem takeWhile_append (hrun : run.all p = true) (h : Apart p rest) :
    (run ++ rest).takeWhile p = run := by
  rw [List.takeWhile_append_of_pos (List.all_eq_true.1 hrun)]
  cases rest with
  | nil => exact List.append_nil run
  | cons c rest => rw [List.takeWhile_cons_of_neg (by simp [apart_cons.1 h]), List.append_nil]

theorem takeWhile_eq_self (hrun : run.all p = true) : run.takeWhile p = run := by
  have htake := takeWhile_append hrun apart_nil
  rwa [List.append_nil] at htake

theorem dropWhile_append (hrun : run.all p = true) (h : Apart p rest) :
    (run ++ rest).dropWhile p = rest := by
  rw [List.dropWhile_append_of_pos (List.all_eq_true.1 hrun)]
  cases rest with
  | nil => rfl
  | cons c rest => rw [List.dropWhile_cons_of_neg (by simp [apart_cons.1 h])]

theorem run_unique (hrun : run.all p = true) (hrun' : run'.all p = true) (hrest : Apart p rest)
    (hrest' : Apart p rest') (h : run ++ rest = run' ++ rest') : run = run' ∧ rest = rest' := by
  constructor
  · rw [← takeWhile_append hrun hrest, h, takeWhile_append hrun' hrest']
  · rw [← dropWhile_append hrun hrest, h, dropWhile_append hrun' hrest']

end ReportQuery.Text
