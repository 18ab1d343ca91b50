import ReportQuery.Proofs.Rows.Frame
import ReportQuery.Proofs.Rows.References

/-!
# Calculations that do not read each other

Two calculations next to each other may change places when neither refers to the field of the other.
One that refers to a field calculated before it reads what was stored there.

Main statement: `PostProcess.calculations_by_reference`.
-/

namespace ReportQuery

open Entries

/-! ## Rows with the same fields -/

namespace Document

/-- Both rows have the same fields with the same values, in whatever order. -/
structure Agrees (row other : Document) : Prop where
  keys : ∀ key, key ∈ keys row ↔ key ∈ Entries.keys other
  values : ∀ key, get? key row = get? key other

variable {row other : Document}

theorem agrees_of_get? (h : ∀ key, get? key row = get? key other) : Agrees row other :=
  ⟨fun key => by rw [mem_keys_iff, mem_keys_iff, h], h⟩

theorem Agrees.sameFields (h : Agrees row other) (references : List String) :
    Expr.SameFields row other references :=
  fun _ _ => lookup?_congr (h.values _) (h.values _)

end Document

/-! ## Calculations -/

namespace Calculation

/-- No reference leads to the field of that name, or into it. -/
def Ignores (c : Calculation) (field : String) : Prop :=
  ∀ path ∈ c.references, path ≠ field ∧ firstSegment path ≠ field

instance (c : Calculation) (field : String) : Decidable (c.Ignores field) :=
  inferInstanceAs (Decidable (∀ path ∈ c.references, _))

theorem Ignores.value_insert {c : Calculation} {field : String} (h : c.Ignores field) (value : Json)
    (row : Document) : c.value (insert field value row) = c.value row := by
  refine value_congr fun path hpath => ?_
  obtain ⟨hwhole, hfirst⟩ := h path hpath
  exact Document.lookup?_congr (get?_insert_of_ne hwhole _ _) (get?_insert_of_ne hfirst _ _)

end Calculation

namespace PostProcess

variable {row other : Document}

theorem agrees_calculateField (h : row.Agrees other) (entry : String × Calculation) :
    (calculateField row entry).Agrees (calculateField other entry) := by
  refine Document.agrees_of_get? fun key => ?_
  have hvalue : entry.2.value row = entry.2.value other :=
    Calculation.value_congr (h.sameFields _)
  rw [get?_calculateField, get?_calculateField, hvalue, h.values]

theorem agrees_formatField (h : row.Agrees other) (entry : String × Format) :
    (formatField row entry).Agrees (formatField other entry) := by
  refine Document.agrees_of_get? fun key => ?_
  rw [get?_formatField, get?_formatField, h.values]

theorem agrees_foldl {α : Type} {step : Document → α → Document}
    (hstep : ∀ {row other : Document}, row.Agrees other →
      ∀ a, (step row a).Agrees (step other a))
    (list : List α) (h : row.Agrees other) : (list.foldl step row).Agrees (list.foldl step other) := by
  induction list generalizing row other with
  | nil => exact h
  | cons a rest ih => exact ih (hstep h a)

theorem agrees_swap {f g : String} {cf cg : Calculation} (hne : f ≠ g) (hf : cf.Ignores g)
    (hg : cg.Ignores f) (row : Document) :
    (calculateField (calculateField row (g, cg)) (f, cf)).Agrees
      (calculateField (calculateField row (f, cf)) (g, cg)) := by
  refine Document.agrees_of_get? fun key => ?_
  -- Neither calculation sees what the other writes.
  have hfvalue : cf.value (calculateField row (g, cg)) = cf.value row := hf.value_insert _ row
  have hgvalue : cg.value (calculateField row (f, cf)) = cg.value row := hg.value_insert _ row
  simp only [get?_calculateField, hfvalue, hgvalue]
  by_cases hkey : key = f
  · rw [if_pos hkey, if_pos hkey, if_neg fun h => hne (hkey.symm.trans h)]
  · rw [if_neg hkey, if_neg hkey]

/-- The order of calculations counts only where one refers to another, and such a reference reads the
stored result, whatever the row had under that name or path. -/
theorem calculations_by_reference (p : PostProcess) (h : (keys p.calculations).Nodup)
    (row : Document) :
    (∀ before f cf g cg after, p.calculations = before ++ (f, cf) :: (g, cg) :: after →
      cf.Ignores g → cg.Ignores f → ∀ swapped : PostProcess,
      swapped = { p with calculations := before ++ (g, cg) :: (f, cf) :: after } →
      (swapped.calculate row).Agrees (p.calculate row) ∧
        (swapped.finishRow row).Agrees (p.finishRow row)) ∧
    ∀ before f cf between g cg after,
      p.calculations = before ++ (f, cf) :: (between ++ (g, cg) :: after) →
      ∃ stored seen, stored = cf.value (before.foldl calculateField row) ∧
        seen = (before ++ (f, cf) :: between).foldl calculateField row ∧
        get? f (p.calculate row) = some stored ∧ get? g (p.calculate row) = some (cg.value seen) ∧
        Document.lookup? seen f = some stored ∧
        (Expr.field f).evaluate seen = Document.decimalOf f (some stored) ∧
        ∀ reason, cf.evaluate (before.foldl calculateField row) = .error reason →
          stored = .null ∧ (Expr.field f).evaluate seen = .ok .zero := by
  constructor
  · rintro before f cf g cg after hp hf hg swapped rfl
    have hne : f ≠ g := by
      rintro rfl
      rw [hp, keys_append, keys_cons, keys_cons] at h
      have := (List.nodup_append.1 h).2.1
      simp at this
    -- The rows agree behind the swapped pair, and whatever follows keeps that.
    have hcalculate : (PostProcess.calculate
        { p with calculations := before ++ (g, cg) :: (f, cf) :: after } row).Agrees
        (p.calculate row) := by
      unfold calculate
      rw [hp, List.foldl_append, List.foldl_append]
      exact agrees_foldl agrees_calculateField after (agrees_swap hne hf hg _)
    exact ⟨hcalculate, agrees_foldl agrees_formatField p.formatting hcalculate⟩
  · intro before f cf between g cg after hp
    have hsplit : p.calculations = (before ++ (f, cf) :: between) ++ (g, cg) :: after := by
      rw [hp, List.append_assoc, List.cons_append]
    have hseen : (keys (before ++ (f, cf) :: between)).Nodup := by
      rw [hsplit, keys_append] at h
      exact (List.nodup_append.1 h).1
    -- A name of the row itself wins over a path, so that the reference finds what was stored.
    have hlookup := Document.lookup?_of_get? (get?_foldl_calculateField hseen row)
    refine ⟨_, _, rfl, rfl, get?_calculate h hp row, get?_calculate h hsplit row, hlookup, ?_, ?_⟩
    · rw [Expr.evaluate, Document.decimal, hlookup]
    · intro reason hreason
      have hnull : cf.value (before.foldl calculateField row) = .null := by
        rw [Calculation.value, hreason]
      refine ⟨hnull, ?_⟩
      rw [Expr.evaluate, Document.decimal, hlookup, hnull]
      rfl

/-- A total that is named like a path, a count, and their sum. -/
def namedTotals : PostProcess where
  calculations := [
    ("net.total", { expression := some (.object [("$add", .array [.string "$net.sum"])]) }),
    ("count", { expression := some (.string "$items.0") }),
    ("sum", { expression := some (.object
      [("$add", .array [.string "$net.total", .string "$count"])]) })]

/-- A row with a total of its own under that path, and nothing that can be summed up. -/
def nestedRow : Document :=
  [("net", .object [("total", .one), ("sum", .bool true)]), ("items", .array [.one])]

theorem calculations_by_reference_of_namedTotals :
    (keys namedTotals.calculations).Nodup ∧
      (∀ swapped : PostProcess, swapped = { namedTotals with
          calculations := (namedTotals.calculations.take 2).reverse ++
            namedTotals.calculations.drop 2 } →
        (swapped.finishRow nestedRow).Agrees (namedTotals.finishRow nestedRow)) ∧
      get? "net.total" (namedTotals.calculate nestedRow) = some .null ∧
      (Expr.field "net.total").evaluate
        ((namedTotals.calculations.take 2).foldl calculateField nestedRow) = .ok .zero := by
  have hnodup : (keys namedTotals.calculations).Nodup := by decide
  obtain ⟨hswap, hread⟩ := calculations_by_reference namedTotals hnodup nestedRow
  refine ⟨hnodup, ?_, ?_⟩
  · intro swapped hswapped
    exact (hswap [] _ _ _ _ _ rfl (by decide +kernel) (by decide +kernel) swapped hswapped).2
  · obtain ⟨stored, _, -, rfl, hstored, -, -, -, hfailed⟩ := hread [] _ _ [_] _ _ [] rfl
    obtain ⟨hnull, hzero⟩ := hfailed (.notNumeric "net.sum") (by rfl)
    exact ⟨hnull ▸ hstored, hzero⟩

end PostProcess

end ReportQuery
