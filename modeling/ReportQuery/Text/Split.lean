/-!
# Cutting text

Functions on lists of characters that cut at a separator. `splitOnce` cuts at the first occurrence,
`splitAll` at every occurrence of a single character.
-/

namespace ReportQuery.Text

/-- The rest of `text` after `lead`, if `text` starts with `lead`. -/
def afterPrefix? : (lead text : List Char) → Option (List Char)
  | [], text => some text
  | _ :: _, [] => none
  | a :: lead, b :: text => if a = b then afterPrefix? lead text else none

/-- What stands before and after the first occurrence of `separator`. -/
def splitOnce (separator : List Char) : List Char → Option (List Char × List Char)
  | [] => if separator = [] then some ([], []) else none
  | c :: text =>
    match afterPrefix? separator (c :: text) with
    | some rest => some ([], rest)
    | none => (splitOnce separator text).map fun (before, rest) => (c :: before, rest)

/-- The pieces between the occurrences of `separator`; never empty. -/
def splitAll (separator : Char) : List Char → List (List Char)
  | [] => [[]]
  | c :: text =>
    if c = separator then [] :: splitAll separator text
    else
      match splitAll separator text with
      | [] => [[c]]
      | piece :: pieces => (c :: piece) :: pieces

/-- The piece before the first occurrence of `separator`, or the whole text. -/
def before (separator : Char) (text : List Char) : List Char := text.takeWhile (· ≠ separator)

/-- The text without its leading occurrences of `c`. -/
def trimLeading (c : Char) (text : List Char) : List Char := text.dropWhile (· = c)

/-- The text without its trailing occurrences of `c`. -/
def trimTrailing (c : Char) (text : List Char) : List Char :=
  (text.reverse.dropWhile (· = c)).reverse

/-- The number of bytes of the text in UTF-8. -/
def byteLength (text : List Char) : Nat := text.foldl (fun n c => n + c.utf8Size) 0

theorem length_le_byteLength (text : List Char) : text.length ≤ byteLength text := by
  have hfrom : ∀ n, n + text.length ≤ text.foldl (fun n c => n + c.utf8Size) n := by
    induction text with
    | nil => exact fun n => Nat.le_refl n
    | cons c rest ih =>
      intro n
      have hsize := Char.utf8Size_pos c
      have hrest := ih (n + c.utf8Size)
      rw [List.foldl_cons, List.length_cons]
      omega
  have hall := hfrom 0
  rwa [Nat.zero_add] at hall

theorem afterPrefix?_eq_some_iff {lead text rest : List Char} :
    afterPrefix? lead text = some rest ↔ text = lead ++ rest := by
  induction lead generalizing text with
  | nil => simp [afterPrefix?, eq_comm]
  | cons a lead ih =>
    cases text with
    | nil => simp [afterPrefix?]
    | cons b text =>
      by_cases h : a = b
      · simp [afterPrefix?, h, ih]
      · simp [afterPrefix?, h]; exact fun h' => absurd h'.symm h

theorem splitOnce_eq_some_iff {separator text before rest : List Char} (h : separator ≠ []) :
    splitOnce separator text = some (before, rest) ↔
      text = before ++ separator ++ rest ∧ ¬separator <:+: before ++ separator.dropLast := by
  have hlength : separator.dropLast.length < separator.length := by
    have hpos := List.length_pos_iff.2 h
    rw [List.length_dropLast]
    omega
  have hlead (before : List Char) : before ++ separator.dropLast <+: before ++ separator ++ rest := by
    rw [List.append_assoc, List.prefix_append_right_inj]
    exact (List.dropLast_prefix separator).trans (List.prefix_append separator rest)
  induction text generalizing before with
  | nil => simp [splitOnce, h]
  | cons c text ih =>
    rw [splitOnce]
    cases hstart : afterPrefix? separator (c :: text) with
    | some after =>
      rw [afterPrefix?_eq_some_iff] at hstart
      rw [hstart]
      cases before with
      | nil =>
        have hnone : ¬separator <:+: separator.dropLast := fun hinfix =>
          absurd hinfix.length_le (Nat.not_le.2 hlength)
        simp [hnone]
      | cons b before =>
        refine iff_of_false (by simp) ?_
        -- The separator at the start of the text ends before the second cut.
        rintro ⟨htext, hnone⟩
        have hstarts : separator <+: b :: before ++ separator ++ rest := ⟨after, htext⟩
        refine hnone (List.prefix_of_prefix_length_le hstarts (hlead _) ?_).isInfix
        rw [List.length_append, List.length_dropLast, List.length_cons]
        omega
    | none =>
      have hnot : ¬separator <+: c :: text := by
        rintro ⟨after, hafter⟩
        rw [afterPrefix?_eq_some_iff.2 hafter.symm] at hstart
        cases hstart
      cases before with
      | nil =>
        refine iff_of_false (by simp) ?_
        rintro ⟨htext, -⟩
        exact hnot ⟨rest, htext.symm⟩
      | cons b before =>
        simp only [Option.map_eq_some_iff, Prod.exists, Prod.mk.injEq, List.cons.injEq,
          List.cons_append, List.infix_cons_iff (a := b), not_or]
        constructor
        · rintro ⟨front, back, hcut, ⟨rfl, rfl⟩, rfl⟩
          obtain ⟨htext, hnone⟩ := ih.1 hcut
          refine ⟨⟨rfl, htext⟩, fun hstarts => hnot (hstarts.trans ?_), hnone⟩
          rw [htext]
          exact hlead (c :: front)
        · rintro ⟨⟨rfl, htext⟩, -, hnone⟩
          exact ⟨before, rest, ih.2 ⟨htext, hnone⟩, ⟨rfl, rfl⟩, rfl⟩

theorem splitOnce_singleton_eq_some_iff {c : Char} {text before rest : List Char} :
    splitOnce [c] text = some (before, rest) ↔ text = before ++ c :: rest ∧ c ∉ before := by
  have hmem : [c] <:+: before ↔ c ∈ before := by
    constructor
    · exact fun h => h.subset List.mem_cons_self
    · intro h
      obtain ⟨front, back, rfl⟩ := List.append_of_mem h
      exact ⟨front, back, by rw [List.append_assoc, List.singleton_append]⟩
  rw [splitOnce_eq_some_iff (List.cons_ne_nil c []), List.append_assoc, List.dropLast_singleton,
    List.append_nil, List.singleton_append, hmem]

theorem splitOnce_double_eq_some_iff {c : Char} {text before rest : List Char} :
    splitOnce [c, c] text = some (before, rest) ↔
      text = before ++ c :: c :: rest ∧ ¬[c, c] <:+: before ++ [c] := by
  rw [splitOnce_eq_some_iff (List.cons_ne_nil c [c]), List.append_assoc]
  rfl

end ReportQuery.Text
