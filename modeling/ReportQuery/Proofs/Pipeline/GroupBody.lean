import Mathlib.Data.List.Forall2
import ReportQuery.Pipeline.Assembly
import ReportQuery.Proofs.Config.ArrayPaths
import ReportQuery.Proofs.Entries

/-!
# Bodies of group stages

The body of a group stage has the grouping key under `_id` and the accumulators under the names of
their fields. Each is kept as long as no field has the name `_id`. One that has it takes the place of
the grouping key.

Main statement: `body_keeps_iff`.
-/

namespace ReportQuery.Grouping

open Config (StripsTo)

/-! ## Accumulators -/

/-- What an accumulator is in the store's own form. -/
inductive Accumulates : Accumulator → Json → Prop
  | count {name : String} (h : StripsTo name "count") :
    Accumulates (.named name) (.object [("$sum", .one)])
  | named {name operator : String} (h : StripsTo name operator) (hne : operator ≠ "count") :
    Accumulates (.named name) (.object [("$" ++ operator, .one)])
  | operator {name operator : String} (operand : Json) (h : StripsTo name operator) :
    Accumulates (.operator name operand) (.object [("$" ++ operator, operand)])
  | expression (expression : Json) : Accumulates (.expression expression) expression
  | raw (fields : Document) : Accumulates (.raw fields) (.object fields)

theorem accumulates_iff {accumulator : Accumulator} {value : Json} :
    Accumulates accumulator value ↔ value = accumulator.body := by
  constructor
  · intro h
    cases h with
    | count h => simp [Accumulator.body, Accumulator.single, Config.barePath_eq_iff.2 h]; decide
    | named h hne => simp [Accumulator.body, Accumulator.single, Config.barePath_eq_iff.2 h, hne]
    | operator operand h => simp [Accumulator.body, Accumulator.single, Config.barePath_eq_iff.2 h]
    | expression | raw => rfl
  · rintro rfl
    cases accumulator with
    | named name =>
      have hstrips : StripsTo name (Config.barePath name) := Config.barePath_eq_iff.1 rfl
      rw [Accumulator.body]
      split
      · next hcount => exact .count (hcount ▸ hstrips)
      · next hne => exact .named hstrips hne
    | operator name operand => exact .operator operand (Config.barePath_eq_iff.1 rfl)
    | expression expression => exact .expression expression
    | raw fields => exact .raw fields

/-! ## Bodies -/

variable {g : Grouping}

theorem body_eq_insertAll (g : Grouping) :
    g.body = Entries.insertAll [("_id", g.id)]
      (Entries.mapValues (fun _ accumulator => accumulator.body) g.fields) := by
  unfold body Entries.insertAll Entries.mapValues
  rw [List.foldl_map]

theorem body_eq (h : (Entries.keys g.fields).Nodup) :
    g.body =
      ("_id", ((Entries.get? "_id" g.fields).map Accumulator.body).getD g.id) ::
        Entries.erase "_id" (Entries.mapValues (fun _ accumulator => accumulator.body) g.fields) := by
  have hkeys : (Entries.keys ([] : Document) ++ Entries.keys
      (Entries.mapValues (fun _ accumulator => accumulator.body) g.fields)).Nodup := by
    rw [Entries.keys_mapValues]
    exact h
  rw [body_eq_insertAll, Entries.insertAll_cons List.not_mem_nil hkeys, Entries.get?_mapValues]
  rfl

/-- The body has the grouping key first and then each field with its accumulator. -/
structure Keeps (g : Grouping) (body : Document) : Prop where
  size : body.length = 1 + g.fields.length
  key : body.head? = some ("_id", g.id)
  fields : List.Forall₂ (fun field entry => entry.1 = field.1 ∧ Accumulates field.2 entry.2)
    g.fields body.tail

theorem keeps_of_notMem (hkeys : (Entries.keys g.fields).Nodup) (h : "_id" ∉ Entries.keys g.fields) :
    Keeps g g.body := by
  have herase : Entries.erase "_id" (Entries.mapValues (fun _ a => Accumulator.body a) g.fields) =
      Entries.mapValues (fun _ a => Accumulator.body a) g.fields := by
    refine List.filter_eq_self.2 fun entry hentry => ?_
    have hkey : entry.1 ∈ Entries.keys g.fields := by
      rw [← Entries.keys_mapValues fun _ a => Accumulator.body a]
      exact List.mem_map_of_mem hentry
    exact decide_eq_true fun hid => h (hid ▸ hkey)
  rw [body_eq hkeys, herase, Entries.get?_eq_none_of_notMem_keys h]
  constructor
  · simp [Entries.mapValues, Nat.add_comm]
  · rfl
  · refine List.forall₂_map_right_iff.2 (List.forall₂_same.2 fun field _ => ⟨rfl, ?_⟩)
    exact accumulates_iff.2 rfl

theorem Keeps.notMem (hkeys : (Entries.keys g.fields).Nodup) (h : Keeps g g.body) :
    "_id" ∉ Entries.keys g.fields := by
  have hlength : (Entries.mapValues (fun _ a => Accumulator.body a) g.fields).length =
      g.fields.length := List.length_map _
  have hsize := h.size
  rw [body_eq hkeys, List.length_cons, Nat.add_comm, Nat.add_left_cancel_iff, Entries.erase,
    ← hlength] at hsize
  -- By its size the body leaves no field out, so none has the name that is taken out.
  intro hid
  obtain ⟨field, hfield, hname⟩ := List.mem_map.1 hid
  have hkept := List.length_filter_eq_length_iff.1 hsize _ (List.mem_map_of_mem hfield)
  exact absurd hname (by simpa using hkept)

/-- The body keeps the grouping key and every field exactly when no field has the name `_id`. Else the
accumulator of that field stands in the place of the grouping key. -/
theorem body_keeps_iff (h : (Entries.keys g.fields).Nodup) :
    (Keeps g g.body ↔ "_id" ∉ Entries.keys g.fields) ∧
      ∀ accumulator, Entries.get? "_id" g.fields = some accumulator →
        g.body = ("_id", accumulator.body) ::
          Entries.erase "_id" (Entries.mapValues (fun _ a => Accumulator.body a) g.fields) := by
  refine ⟨⟨Keeps.notMem h, keeps_of_notMem h⟩, fun accumulator haccumulator => ?_⟩
  rw [body_eq h, haccumulator]
  rfl

def totals : Grouping where
  id := .string "$region"
  fields := [("orders", .named "$count"), ("total", .operator "$$sum" (.string "$amount"))]

/-- A grouping with a field under the name of the grouping key. -/
def renamed : Grouping where
  id := .string "$region"
  fields := [("orders", .named "max"), ("_id", .named "count")]

theorem body_keeps_iff_of_totals :
    (Entries.keys totals.fields).Nodup ∧ "_id" ∉ Entries.keys totals.fields ∧
      Keeps totals totals.body ∧
      (Entries.keys renamed.fields).Nodup ∧
      Entries.get? "_id" renamed.fields = some (.named "count") ∧
      renamed.body = ("_id", Accumulator.body (.named "count")) ::
        Entries.erase "_id" (Entries.mapValues (fun _ a => Accumulator.body a) renamed.fields) := by
  have hkeys : (Entries.keys totals.fields).Nodup := by decide
  have hnone : "_id" ∉ Entries.keys totals.fields := by decide
  have hkeys' : (Entries.keys renamed.fields).Nodup := by decide
  exact ⟨hkeys, hnone, (body_keeps_iff hkeys).1.2 hnone, hkeys', rfl, (body_keeps_iff hkeys').2 _ rfl⟩

/-- The field under that name takes the place of the grouping key. -/
theorem grouping_key_replaced :
    renamed.body = [("_id", .object [("$sum", .one)]), ("orders", .object [("$max", .one)])] ∧
      ¬Keeps renamed renamed.body := by
  have hbody : renamed.body =
      [("_id", .object [("$sum", .one)]), ("orders", .object [("$max", .one)])] := by
    decide +kernel
  refine ⟨hbody, fun h => ?_⟩
  have hsize := h.size
  rw [hbody] at hsize
  cases hsize

end ReportQuery.Grouping
