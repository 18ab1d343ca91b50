import ReportQuery.Config.ArrayPaths
import ReportQuery.Proofs.Pipeline.StageDocument
import ReportQuery.Proofs.Text.Runs

/-!
# The arrays of a configuration

A configuration names arrays in several places: it declares them, takes one apart, and its template
takes others apart. Their list has each array once, without `$` signs, in the order of the places that
name it first. The default array is the first of all.

Main statement: `arrayPaths_inOrder`.
-/

namespace ReportQuery.Config

/-! ## Bare paths -/

/-- What is left of the text without its leading `$` signs. -/
structure StripsTo (text bare : String) : Prop where
  signs : ∃ n, text.toList = List.replicate n '$' ++ bare.toList
  bare : bare.toList.head? ≠ some '$'

theorem barePath_eq_iff {text bare : String} : barePath text = bare ↔ StripsTo text bare := by
  unfold barePath Text.trimLeading
  constructor
  · rintro rfl
    constructor
    · refine ⟨(text.toList.takeWhile (· = '$')).length, ?_⟩
      have hsigns : text.toList.takeWhile (· = '$') =
          List.replicate (text.toList.takeWhile (· = '$')).length '$' :=
        List.eq_replicate_of_mem fun c hc => by simpa using List.all_eq_true.1 List.all_takeWhile c hc
      rw [String.toList_ofList, ← hsigns, List.takeWhile_append_dropWhile]
    · intro hhead
      rw [String.toList_ofList] at hhead
      have hkept := List.head?_dropWhile_not (fun c => decide (c = '$')) text.toList
      simp [hhead] at hkept
  · rintro ⟨⟨n, htext⟩, hbare⟩
    have hrun : (List.replicate n '$').all (· = '$') = true := by simp
    have hapart : Text.Apart (· = '$') bare.toList := by
      intro c hc
      simp only [decide_eq_false_iff_not]
      rintro rfl
      exact hbare hc
    rw [htext, Text.dropWhile_append hrun hapart, String.ofList_toList]

/-! ## Places -/

/-- Where a configuration names an array. -/
inductive Place where
  | standard
  | declared (index : Nat)
  | unwind
  | template (index : Nat)

namespace Place

def phase : Place → Nat
  | standard => 0
  | declared _ => 1
  | unwind => 2
  | template _ => 3

/-- The index of a place among those of its phase. -/
def index : Place → Nat
  | declared index | template index => index
  | _ => 0

def Before (a b : Place) : Prop := a.phase < b.phase ∨ a.phase = b.phase ∧ a.index < b.index

theorem not_before_standard (place : Place) : ¬place.Before standard := by
  simp [Before, phase, index]

end Place

/-- The element of a template takes an array apart. -/
def Unwinds (element : Json) (path : String) : Prop :=
  ∃ fields body, element = .object fields ∧ Entries.get? "$unwind" fields = some body ∧
    Stage.NamesPath body path

theorem unwoundPath?_eq_some_iff {element : Json} {path : String} :
    unwoundPath? element = some path ↔ Unwinds element path := by
  unfold unwoundPath? Unwinds
  rw [Option.bind_eq_some_iff]
  simp only [Stage.unwindPath?_eq_some_iff]
  constructor
  · rintro ⟨body, hbody, hpath⟩
    cases element with
    | object fields => exact ⟨fields, body, rfl, hbody, hpath⟩
    | _ => cases hbody
  · rintro ⟨fields, body, rfl, hbody, hpath⟩
    exact ⟨body, hbody, hpath⟩

/-- The configuration has a path at the place, as it is written. -/
inductive Writes (c : Config) : Place → String → Prop
  | standard : Writes c .standard "lineItems"
  | declared {index : Nat} {path : String} (h : c.arrayFields[index]? = some path) :
    Writes c (.declared index) path
  | unwind {u : Unwind} (h : c.unwind = some u) : Writes c .unwind u.path
  | template {template : List Json} {index : Nat} {element : Json} {path : String}
    (h : c.pipeline = some template) (helement : template[index]? = some element)
    (hpath : Unwinds element path) : Writes c (.template index) path

/-- Some path at the place is that of the array but for `$` signs. -/
def Names (writes : Place → String → Prop) (place : Place) (array : String) : Prop :=
  array ≠ "" ∧ ∃ path, writes place path ∧ StripsTo path array

/-- The list has each array that is named once, in the order of the places that name it first. -/
structure InOrder (writes : Place → String → Prop) (arrays : List String) : Prop where
  distinct : arrays.Nodup
  complete : ∀ array, array ∈ arrays ↔ ∃ place, Names writes place array
  ordered : arrays.Pairwise fun a b =>
    ∀ place, Names writes place b → ∃ earlier, Names writes earlier a ∧ earlier.Before place

/-! ## Written paths -/

section Placed

variable {α : Type} (spot : Nat → Place) (path? : α → Option String) (l : List α)

/-- The paths that the items of a list have, each at the place of its index. -/
def placed : List (Place × String) :=
  l.zipIdx.filterMap fun (item, index) => (path? item).map fun path => (spot index, path)

theorem map_snd_placed : (placed spot path? l).map Prod.snd = l.filterMap path? := by
  have hitems : l.filterMap path? = l.zipIdx.filterMap (path? ∘ Prod.fst) := by
    rw [← List.filterMap_map, List.zipIdx_map_fst]
  unfold placed
  rw [hitems, List.map_filterMap]
  congr 1
  funext entry
  simp only [Option.map_map, Function.comp_def, Option.map_id']

theorem mem_placed_iff {place : Place} {path : String} :
    (place, path) ∈ placed spot path? l ↔
      ∃ index item, l[index]? = some item ∧ path? item = some path ∧ spot index = place := by
  unfold placed
  simp only [List.mem_filterMap, Prod.exists, List.mk_mem_zipIdx_iff_getElem?,
    Option.map_eq_some_iff, Prod.mk.injEq]
  constructor
  · rintro ⟨item, index, hitem, path, hpath, rfl, rfl⟩
    exact ⟨index, item, hitem, hpath, rfl⟩
  · rintro ⟨index, item, hitem, hpath, rfl⟩
    exact ⟨item, index, hitem, path, hpath, rfl, rfl⟩

theorem pairwise_placed (hspot : ∀ i j, i < j → (spot i).Before (spot j)) :
    (placed spot path? l).Pairwise fun a b => a.1.Before b.1 := by
  have hindex : l.zipIdx.Pairwise fun a b => a.2 < b.2 := by
    have hrange := List.pairwise_lt_range' (s := 0) (n := l.length) 1
    rwa [← List.zipIdx_map_snd, List.pairwise_map] at hrange
  refine hindex.filterMap _ ?_
  rintro ⟨item, i⟩ ⟨item', j⟩ hij a ha b hb
  obtain ⟨path, -, rfl⟩ := Option.map_eq_some_iff.1 ha
  obtain ⟨path', -, rfl⟩ := Option.map_eq_some_iff.1 hb
  exact hspot i j hij

end Placed

/-- The paths that are written after the default one, with their places. -/
def placedPaths (c : Config) : List (Place × String) :=
  placed .declared some c.arrayFields ++
    (c.unwind.map fun u => (Place.unwind, u.path)).toList ++
    placed .template unwoundPath? (c.pipeline.getD [])

theorem map_snd_placedPaths (c : Config) : c.placedPaths.map Prod.snd = c.writtenArrayPaths := by
  unfold placedPaths writtenArrayPaths
  rw [List.map_append, List.map_append, map_snd_placed, map_snd_placed, List.filterMap_some]
  cases c.unwind <;> rfl

theorem writes_iff {c : Config} {place : Place} {path : String} :
    c.Writes place path ↔ (place, path) ∈ (.standard, "lineItems") :: c.placedPaths := by
  simp only [placedPaths, List.mem_cons, List.mem_append, mem_placed_iff, Option.mem_toList,
    Option.map_eq_some_iff, unwoundPath?_eq_some_iff, Prod.mk.injEq]
  constructor
  · intro h
    cases h with
    | standard => exact .inl ⟨rfl, rfl⟩
    | declared h => exact .inr (.inl (.inl ⟨_, _, h, rfl, rfl⟩))
    | unwind h => exact .inr (.inl (.inr ⟨_, h, rfl, rfl⟩))
    | template h helement hpath => exact .inr (.inr ⟨_, _, by rwa [h], hpath, rfl⟩)
  · rintro (⟨rfl, rfl⟩ | ((⟨index, _, h, ⟨⟩, rfl⟩ | ⟨u, h, rfl, rfl⟩) |
      ⟨index, element, helement, hpath, rfl⟩))
    · exact .standard
    · exact .declared h
    · exact .unwind h
    · cases htemplate : c.pipeline with
      | none =>
        rw [htemplate] at helement
        cases helement
      | some template =>
        rw [htemplate] at helement
        exact .template htemplate helement hpath

theorem pairwise_placedPaths (c : Config) :
    ((Place.standard, "lineItems") :: c.placedPaths).Pairwise fun a b => a.1.Before b.1 := by
  have hdeclared := pairwise_placed .declared some c.arrayFields fun i j h => .inr ⟨rfl, h⟩
  have htemplate := pairwise_placed .template unwoundPath? (c.pipeline.getD []) fun i j h =>
    .inr ⟨rfl, h⟩
  have hunwind : (c.unwind.map fun u => (Place.unwind, u.path)).toList.Pairwise
      fun a b => a.1.Before b.1 := by
    cases c.unwind <;> simp
  -- Between the parts of the list the phases decide.
  have hphase : ∀ {a b : Place}, a.phase < b.phase → a.Before b := fun h => .inl h
  unfold placedPaths
  simp only [List.pairwise_cons, List.pairwise_append, List.mem_append, Prod.forall, mem_placed_iff,
    Option.mem_toList, Option.map_eq_some_iff, Prod.mk.injEq]
  refine ⟨?_, ⟨hdeclared, hunwind, ?_⟩, htemplate, ?_⟩
  · rintro place path ((⟨_, _, -, -, rfl⟩ | ⟨_, -, rfl, -⟩) | ⟨_, _, -, -, rfl⟩) <;>
      exact hphase (by simp [Place.phase])
  · rintro _ _ ⟨_, _, -, -, rfl⟩ _ _ ⟨_, -, rfl, -⟩
    exact hphase (by simp [Place.phase])
  · rintro _ _ (⟨_, _, -, -, rfl⟩ | ⟨_, -, rfl, -⟩) _ _ ⟨_, _, -, -, rfl⟩ <;>
      exact hphase (by simp [Place.phase])

/-! ## Adding paths -/

/-- The path is written at the place, of those seen so far. -/
def Within (seen : List (Place × String)) (place : Place) (path : String) : Prop :=
  (place, path) ∈ seen

section Adding

variable {seen more : List (Place × String)} {arrays : List String} {place spot : Place}
  {path array : String}

theorem names_concat :
    Names (Within (seen ++ [(place, path)])) spot array ↔
      Names (Within seen) spot array ∨ spot = place ∧ array ≠ "" ∧ barePath path = array := by
  simp only [Names, Within, List.mem_append, List.mem_singleton, Prod.mk.injEq, barePath_eq_iff]
  constructor
  · rintro ⟨hne, written, hseen | ⟨rfl, rfl⟩, hbare⟩
    · exact .inl ⟨hne, written, hseen, hbare⟩
    · exact .inr ⟨rfl, hne, hbare⟩
  · rintro (⟨hne, written, hseen, hbare⟩ | ⟨rfl, hne, hbare⟩)
    · exact ⟨hne, written, .inl hseen, hbare⟩
    · exact ⟨hne, path, .inr ⟨rfl, rfl⟩, hbare⟩

theorem InOrder.exists_before (h : InOrder (Within seen) arrays)
    (hlater : ∀ entry ∈ seen, entry.1.Before place) (harray : array ∈ arrays) :
    ∃ earlier, Names (Within seen) earlier array ∧ earlier.Before place := by
  obtain ⟨earlier, hne, path, hpath, hbare⟩ := (h.complete array).1 harray
  exact ⟨earlier, ⟨hne, path, hpath, hbare⟩, hlater _ hpath⟩

theorem InOrder.ordered_concat (h : InOrder (Within seen) arrays)
    (hlater : ∀ entry ∈ seen, entry.1.Before place) (path : String) :
    arrays.Pairwise fun a b => ∀ spot, Names (Within (seen ++ [(place, path)])) spot b →
      ∃ earlier, Names (Within (seen ++ [(place, path)])) earlier a ∧ earlier.Before spot := by
  refine h.ordered.imp_of_mem fun {a b} ha _ hab spot hspot => ?_
  have hfirst : ∃ earlier, Names (Within seen) earlier a ∧ earlier.Before spot := by
    rcases names_concat.1 hspot with hseen | ⟨rfl, -⟩
    · exact hab spot hseen
    · exact h.exists_before hlater ha
  obtain ⟨earlier, hearlier, hlt⟩ := hfirst
  exact ⟨earlier, names_concat.2 (.inl hearlier), hlt⟩

theorem InOrder.keep (h : InOrder (Within seen) arrays)
    (hlater : ∀ entry ∈ seen, entry.1.Before place)
    (hpath : barePath path = "" ∨ barePath path ∈ arrays) :
    InOrder (Within (seen ++ [(place, path)])) arrays := by
  refine ⟨h.distinct, fun a => ?_, h.ordered_concat hlater path⟩
  rw [h.complete]
  constructor
  · rintro ⟨spot, hspot⟩
    exact ⟨spot, names_concat.2 (.inl hspot)⟩
  · rintro ⟨spot, hspot⟩
    rcases names_concat.1 hspot with hseen | ⟨-, hne, rfl⟩
    · exact ⟨spot, hseen⟩
    · exact (h.complete _).1 (hpath.resolve_left hne)

theorem InOrder.append (h : InOrder (Within seen) arrays)
    (hlater : ∀ entry ∈ seen, entry.1.Before place) (hne : barePath path ≠ "")
    (hnew : barePath path ∉ arrays) :
    InOrder (Within (seen ++ [(place, path)])) (arrays ++ [barePath path]) := by
  refine ⟨?_, fun a => ?_, ?_⟩
  · refine List.nodup_append.2 ⟨h.distinct, by simp, ?_⟩
    rintro a ha b hb rfl
    exact hnew (List.mem_singleton.1 hb ▸ ha)
  · rw [List.mem_append, List.mem_singleton, h.complete]
    constructor
    · rintro (⟨spot, hspot⟩ | rfl)
      · exact ⟨spot, names_concat.2 (.inl hspot)⟩
      · exact ⟨place, names_concat.2 (.inr ⟨rfl, hne, rfl⟩)⟩
    · rintro ⟨spot, hspot⟩
      rcases names_concat.1 hspot with hseen | ⟨-, -, rfl⟩
      · exact .inl ⟨spot, hseen⟩
      · exact .inr rfl
  · refine List.pairwise_append.2 ⟨h.ordered_concat hlater path, List.pairwise_singleton _ _, ?_⟩
    intro a ha b hb spot hspot
    obtain rfl := List.mem_singleton.1 hb
    -- The array is new, so that only the added path names it.
    rcases names_concat.1 hspot with hseen | ⟨rfl, -⟩
    · exact absurd ((h.complete _).2 ⟨spot, hseen⟩) hnew
    · obtain ⟨earlier, hearlier, hlt⟩ := h.exists_before hlater ha
      exact ⟨earlier, names_concat.2 (.inl hearlier), hlt⟩

/-- One step: the array of a path at a later place goes to the end, unless it is there. -/
theorem InOrder.add (h : InOrder (Within seen) arrays) (hlater : ∀ entry ∈ seen, entry.1.Before place)
    (path : String) : InOrder (Within (seen ++ [(place, path)])) (addArrayPath arrays path) := by
  simp only [addArrayPath]
  split
  · next hpath => exact h.keep hlater hpath
  · next hpath =>
    rw [not_or] at hpath
    exact h.append hlater hpath.1 hpath.2

theorem InOrder.foldl (h : InOrder (Within seen) arrays)
    (hmore : (seen ++ more).Pairwise fun a b => a.1.Before b.1) :
    InOrder (Within (seen ++ more)) ((more.map Prod.snd).foldl addArrayPath arrays) := by
  -- On the paths still to come; those seen so far grow by one in each step.
  induction more generalizing seen arrays with
  | nil => simpa using h
  | cons entry rest ih =>
    obtain ⟨place, path⟩ := entry
    have hlater : ∀ before ∈ seen, before.1.Before place := fun before hbefore =>
      (List.pairwise_append.1 hmore).2.2 before hbefore _ List.mem_cons_self
    rw [List.append_cons] at hmore ⊢
    exact ih (h.add hlater path) hmore

theorem inOrder_nil : InOrder (Within []) [] := by
  refine ⟨.nil, fun array => iff_of_false List.not_mem_nil ?_, .nil⟩
  rintro ⟨place, -, path, hpath, -⟩
  cases hpath

end Adding

/-! ## The list of arrays -/

theorem arrayPaths_eq_foldl (c : Config) :
    c.arrayPaths =
      (((Place.standard, "lineItems") :: c.placedPaths).map Prod.snd).foldl addArrayPath [] := by
  have hfirst : addArrayPath [] "lineItems" = [defaultArrayField] := by decide
  rw [List.map_cons, List.foldl_cons, hfirst, map_snd_placedPaths, arrayPaths]

theorem InOrder.head?_eq {writes : Place → String → Prop} {arrays : List String} {array : String}
    (h : InOrder writes arrays) (hfirst : Names writes .standard array) :
    arrays.head? = some array := by
  have hmem : array ∈ arrays := (h.complete array).2 ⟨.standard, hfirst⟩
  cases arrays with
  | nil => cases hmem
  | cons first rest =>
    rcases List.mem_cons.1 hmem with rfl | hrest
    · rfl
    · -- An array in front of this one would be named before the default place.
      obtain ⟨earlier, -, hbefore⟩ := (List.pairwise_cons.1 h.ordered).1 array hrest .standard hfirst
      exact absurd hbefore earlier.not_before_standard

/-- The list begins with the default array. It has each array that some path names, once and without
`$` signs, in the order of the places where it is named first. -/
theorem arrayPaths_inOrder (c : Config) :
    c.arrayPaths.head? = some "lineItems" ∧
      (∀ array ∈ c.arrayPaths, array ≠ "" ∧ array.toList.head? ≠ some '$') ∧
      InOrder c.Writes c.arrayPaths := by
  have hwrites : c.Writes = Within ((.standard, "lineItems") :: c.placedPaths) := by
    funext place path
    exact propext writes_iff
  have horder : InOrder c.Writes c.arrayPaths := by
    rw [hwrites, arrayPaths_eq_foldl]
    exact inOrder_nil.foldl (pairwise_placedPaths c)
  refine ⟨?_, ?_, horder⟩
  · exact horder.head?_eq ⟨by decide, "lineItems", .standard, barePath_eq_iff.1 (by decide)⟩
  · intro array harray
    obtain ⟨place, hne, path, -, hbare⟩ := (horder.complete array).1 harray
    exact ⟨hne, hbare.bare⟩

/-- Arrays that are named in every place, some of them twice, and items that name none. -/
def materials : Config where
  arrayFields := ["$parts", "$$", "lineItems"]
  unwind := some { path := "parts" }
  pipeline := some [.string "$unwind", .object [("$unwind", .null)],
    .object [("$unwind", .object [("path", .string "$$materials")])],
    .object [("$unwind", .string "$lineItems")]]

theorem arrayPaths_inOrder_of_materials :
    "materials" ∈ materials.arrayPaths ∧
      ("materials" ≠ "" ∧ "materials".toList.head? ≠ some '$') ∧
      materials.arrayPaths = ["lineItems", "parts", "materials"] := by
  obtain ⟨-, hbare, horder⟩ := arrayPaths_inOrder materials
  have hpath : materials.Writes (.template 2) "$$materials" :=
    .template rfl rfl ⟨_, _, rfl, rfl, .option rfl⟩
  have hmem : "materials" ∈ materials.arrayPaths :=
    (horder.complete _).2 ⟨.template 2, by decide, _, hpath, barePath_eq_iff.1 (by decide)⟩
  exact ⟨hmem, hbare _ hmem, by decide +kernel⟩

end ReportQuery.Config
