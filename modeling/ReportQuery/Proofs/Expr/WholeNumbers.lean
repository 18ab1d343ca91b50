import ReportQuery.Expr
import ReportQuery.Proofs.Decimal.Exact

/-!
# Whole numbers in expressions

Sums, products and negations of whole numbers are worth what they are worth in arithmetic without
bounds, unless some result on the way is too large. Then the whole expression overflows, even if its
own value is not too large.

Main statement: `evaluate_of_whole`.
-/

namespace ReportQuery

open Decimal (InRange)

/-- All results are in the range of decimals. -/
def AllInRange (results : List Int) : Prop := ∀ n ∈ results, InRange n

instance (results : List Int) : Decidable (AllInRange results) :=
  inferInstanceAs (Decidable (∀ n ∈ results, InRange n))

theorem allInRange_append {results more : List Int} :
    AllInRange (results ++ more) ↔ AllInRange results ∧ AllInRange more :=
  List.forall_mem_append

theorem allInRange_cons {n : Int} {results : List Int} :
    AllInRange (n :: results) ↔ InRange n ∧ AllInRange results :=
  List.forall_mem_cons

/-! ## Fields -/

namespace Document

/-- The whole number that a field counts as. Other numbers and other values have none. -/
def integer? : Option Json → Option Int
  | none | some .null => some 0
  | some (.number (.integer n _)) => some n
  | some (.string s) => if Text.trim s.toList = [] then some 0 else none
  | some _ => none

theorem decimalOf_of_integer? {value : Option Json} {n : Int} (path : String)
    (h : integer? value = some n) : ∃ d, decimalOf path value = .ok d ∧ d.IsWhole n := by
  unfold integer? at h
  split at h
  · obtain rfl := Option.some.inj h
    exact ⟨.zero, rfl, Decimal.isWhole_zero⟩
  · obtain rfl := Option.some.inj h
    exact ⟨.zero, rfl, Decimal.isWhole_zero⟩
  · next k hfits =>
    obtain rfl := Option.some.inj h
    obtain ⟨d, hd, hwhole⟩ := Decimal.ofNumber?_integer hfits
    refine ⟨d, ?_, hwhole⟩
    unfold decimalOf
    simp only [hd]
  · next s =>
    split at h
    · next hblank =>
      obtain rfl := Option.some.inj h
      refine ⟨.zero, ?_, Decimal.isWhole_zero⟩
      unfold decimalOf
      simp only [hblank, if_true]
    · cases h
  · cases h

end Document

namespace Expr

/-! ## Arithmetic without bounds -/

/-- The results of a left fold, one after each operand. -/
def steps (op : Int → Int → Int) (acc : Int) : List Int → List Int
  | [] => []
  | n :: rest => op acc n :: steps op (op acc n) rest

mutual

/-- There is no quotient in the expression, its literals are whole numbers without fraction digits,
and its fields count as whole numbers. -/
def IsWhole (row : Document) : Expr → Prop
  | literal d => d.scale = 0
  | field path => (Document.integer? (Document.lookup? row path)).isSome = true
  | sum terms => AreWhole row terms
  | product factors => AreWhole row factors
  | quotient _ _ => False
  | negation operand => operand.IsWhole row

def AreWhole (row : Document) : List Expr → Prop
  | [] => True
  | e :: rest => e.IsWhole row ∧ AreWhole row rest

end

mutual

/-- The value of an expression of whole numbers. An empty product is zero. -/
def integer (row : Document) : Expr → Int
  | literal d => d.signed
  | field path => (Document.integer? (Document.lookup? row path)).getD 0
  | sum terms => (integers row terms).foldl (· + ·) 0
  | product [] => 0
  | product (factor :: rest) => (integers row rest).foldl (· * ·) (factor.integer row)
  | quotient _ _ => 0
  | negation operand => -operand.integer row

def integers (row : Document) : List Expr → List Int
  | [] => []
  | e :: rest => e.integer row :: integers row rest

end

mutual

/-- The results of all sums and products in an expression, each after every operand. -/
def results (row : Document) : Expr → List Int
  | literal _ | field _ | product [] | quotient _ _ => []
  | sum terms => listResults row terms ++ steps (· + ·) 0 (integers row terms)
  | product (factor :: rest) =>
    factor.results row ++ (listResults row rest ++
      steps (· * ·) (factor.integer row) (integers row rest))
  | negation operand => operand.results row

def listResults (row : Document) : List Expr → List Int
  | [] => []
  | e :: rest => e.results row ++ listResults row rest

end

/-! ## Results -/

/-- The result is the whole number `n` if everything fits, and else an overflow. -/
def Yields (result : Except CalculationError Decimal) (fits : Prop) (n : Int) : Prop :=
  (fits ∧ ∃ d, result = .ok d ∧ d.IsWhole n) ∨ (¬ fits ∧ result = .error .overflow)

section Yields

variable {result : Except CalculationError Decimal} {fits fits' : Prop} {a b : Decimal} {m n : Int}

theorem yields_ok (h : a.IsWhole n) (hfits : fits) : Yields (.ok a) fits n :=
  .inl ⟨hfits, a, rfl, h⟩

theorem Yields.congr (h : Yields result fits n) (hiff : fits ↔ fits') : Yields result fits' n := by
  rwa [propext hiff] at h

theorem Yields.bind {f : Decimal → Except CalculationError Decimal} (h : Yields result fits m)
    (hf : ∀ d, d.IsWhole m → Yields (f d) fits' n) : Yields (result >>= f) (fits ∧ fits') n := by
  rcases h with ⟨hfits, d, rfl, hd⟩ | ⟨hfits, rfl⟩
  · rcases hf d hd with ⟨hfits', hresult⟩ | ⟨hfits', hresult⟩
    · exact .inl ⟨⟨hfits, hfits'⟩, hresult⟩
    · exact .inr ⟨fun hboth => hfits' hboth.2, hresult⟩
  · exact .inr ⟨fun hboth => hfits hboth.1, rfl⟩

theorem Yields.neg (h : Yields result fits n) : Yields (result.map Decimal.neg) fits (-n) := by
  rcases h with ⟨hfits, d, rfl, hd⟩ | ⟨hfits, rfl⟩
  · exact .inl ⟨hfits, d.neg, rfl, hd.neg⟩
  · exact .inr ⟨hfits, rfl⟩

theorem yields_orOverflow {result : Option Decimal} (h : Decimal.Settles result n) :
    Yields (orOverflow result) (InRange n) n := by
  rcases h with ⟨hrange, d, rfl, hd⟩ | ⟨hrange, rfl⟩
  · exact .inl ⟨hrange, d, rfl, hd⟩
  · exact .inr ⟨hrange, rfl⟩

end Yields

/-! ## Evaluation -/

variable {row : Document}

mutual

theorem evaluate_yields : ∀ e : Expr, e.IsWhole row →
    Yields (e.evaluate row) (AllInRange (e.results row)) (e.integer row)
  | literal d, h => by
    rw [evaluate, integer]
    exact yields_ok ⟨h, rfl⟩ (by simp [results, AllInRange])
  | field path, h => by
    obtain ⟨n, hn⟩ := Option.isSome_iff_exists.1 h
    obtain ⟨d, hd, hwhole⟩ := Document.decimalOf_of_integer? path hn
    rw [evaluate, Document.decimal, hd, integer, hn]
    exact yields_ok hwhole (by simp [results, AllInRange])
  | sum terms, h => by
    rw [evaluate, integer, results]
    exact (evaluateFold_yields Decimal.settles_add? terms h Decimal.isWhole_zero).congr
      allInRange_append.symm
  | product [], _ => by
    rw [evaluate, evaluateProduct, integer]
    exact yields_ok Decimal.isWhole_zero (by simp [results, AllInRange])
  | product (factor :: rest), h => by
    rw [IsWhole, AreWhole] at h
    rw [evaluate, evaluateProduct, integer, results]
    refine ((evaluate_yields factor h.1).bind fun d hd =>
      evaluateFold_yields Decimal.settles_mul? rest h.2 hd).congr ?_
    rw [allInRange_append, allInRange_append]
  | quotient _ _, h => h.elim
  | negation operand, h => by
    rw [evaluate, integer, results]
    exact (evaluate_yields operand h).neg

theorem evaluateFold_yields {op : Decimal → Decimal → Option Decimal} {opWhole : Int → Int → Int}
    (hop : ∀ {a b : Decimal} {m n : Int}, a.IsWhole m → b.IsWhole n →
      Decimal.Settles (op a b) (opWhole m n)) :
    ∀ operands : List Expr, AreWhole row operands → ∀ {acc : Decimal} {n : Int}, acc.IsWhole n →
      Yields (evaluateFold row op acc operands)
        (AllInRange (listResults row operands) ∧
          AllInRange (steps opWhole n (integers row operands)))
        ((integers row operands).foldl opWhole n)
  | [], _, acc, n, hacc => by
    rw [evaluateFold]
    exact yields_ok hacc (by simp [listResults, integers, steps, AllInRange])
  | operand :: rest, h, acc, n, hacc => by
    rw [AreWhole] at h
    rw [evaluateFold, integers, listResults, steps, List.foldl_cons]
    refine ((evaluate_yields operand h.1).bind fun d hd =>
      (yields_orOverflow (hop hacc hd)).bind fun acc hacc =>
        evaluateFold_yields hop rest h.2 hacc).congr ?_
    rw [allInRange_append, allInRange_cons]
    constructor
    · rintro ⟨hoperand, hresult, hrest, hsteps⟩
      exact ⟨⟨hoperand, hrest⟩, hresult, hsteps⟩
    · rintro ⟨⟨hoperand, hrest⟩, hresult, hsteps⟩
      exact ⟨hoperand, hresult, hrest, hsteps⟩

end

/-- An expression of whole numbers is worth its exact value, unless a result on the way is out of
range: then it overflows. -/
theorem evaluate_of_whole {e : Expr} (h : e.IsWhole row) :
    if AllInRange (e.results row) then
      ∃ d, e.evaluate row = .ok d ∧ d.scale = 0 ∧ d.signed = e.integer row
    else e.evaluate row = .error .overflow := by
  split
  · next hfits =>
    obtain ⟨d, hd, hwhole⟩ := ((evaluate_yields e h).resolve_right fun hnot => hnot.1 hfits).2
    exact ⟨d, hd, hwhole.scale, hwhole.signed⟩
  · next hfits => exact ((evaluate_yields e h).resolve_left fun hboth => hfits hboth.1).2

/-- The largest whole number of 64 bits, and a blank note. -/
def largeOrder : Document := [("id", .number (.integer 18446744073709551615 (by decide))),
  ("note", .string " ")]

def whole (n : Nat) (h : n < 79228162514264337593543950336) : Expr :=
  .literal ⟨false, n, 0, h, Decimal.zero.scale_le⟩

/-- The largest decimal: `id * 2 ^ 32 + (2 ^ 32 - 1)`, to which a blank field and a missing one add
nothing. -/
def limitTerms : List Expr :=
  [.product [.field "id", whole 4294967296 (by decide)], whole 4294967295 (by decide),
    .field "note", .negation (.field "total.net")]

/-- One more, and one less again. -/
def beyondLimitTerms : List Expr :=
  limitTerms ++ [whole 1 (by decide), .negation (whole 1 (by decide))]

theorem evaluate_of_whole_at_limit :
    (sum limitTerms).IsWhole largeOrder ∧
      (∃ d, (sum limitTerms).evaluate largeOrder = .ok d ∧
        d.scale = 0 ∧ d.signed = 79228162514264337593543950335) ∧
      (sum beyondLimitTerms).IsWhole largeOrder ∧
      (sum beyondLimitTerms).integer largeOrder = 79228162514264337593543950335 ∧
      (sum beyondLimitTerms).evaluate largeOrder = .error .overflow := by
  have hlimit : (sum limitTerms).IsWhole largeOrder :=
    And.intro ⟨rfl, rfl, trivial⟩ (And.intro rfl (And.intro rfl (And.intro rfl trivial)))
  have hbeyond : (sum beyondLimitTerms).IsWhole largeOrder :=
    And.intro ⟨rfl, rfl, trivial⟩ (And.intro rfl (And.intro rfl (And.intro rfl
      (And.intro rfl (And.intro rfl trivial)))))
  have hfits := evaluate_of_whole hlimit
  have hoverflows := evaluate_of_whole hbeyond
  rw [if_pos (by decide)] at hfits
  rw [if_neg (by decide)] at hoverflows
  exact ⟨hlimit, hfits, hbeyond, by decide, hoverflows⟩

end Expr

end ReportQuery
