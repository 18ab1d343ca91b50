/-!
# Ordered entries

Maps from text keys that keep the order in which their keys were first written. Writing a key again
changes its value and not its place.
-/

namespace ReportQuery

/-- Keys with their values, in order. -/
abbrev Entries (α : Type) := List (String × α)

namespace Entries

variable {α β : Type}

def get? (key : String) : Entries α → Option α
  | [] => none
  | (k, v) :: rest => if k = key then some v else get? key rest

def has (key : String) (entries : Entries α) : Bool := (get? key entries).isSome

def keys (entries : Entries α) : List String := entries.map Prod.fst

/-- A new key goes to the end, a present one keeps its place. -/
def insert (key : String) (value : α) : Entries α → Entries α
  | [] => [(key, value)]
  | (k, v) :: rest => if k = key then (k, value) :: rest else (k, v) :: insert key value rest

def insertAll (entries : Entries α) (more : Entries α) : Entries α :=
  more.foldl (fun acc (k, v) => insert k v acc) entries

def erase (key : String) (entries : Entries α) : Entries α := entries.filter fun (k, _) => k ≠ key

/-- Each value changed by `f`, which also sees its key. -/
def mapValues (f : String → α → β) (entries : Entries α) : Entries β :=
  entries.map fun (k, v) => (k, f k v)

/-! ## Laws -/

@[simp] theorem get?_nil (key : String) : get? key ([] : Entries α) = none := rfl

theorem keys_cons (key : String) (value : α) (rest : Entries α) :
    keys ((key, value) :: rest) = key :: keys rest := rfl

theorem keys_append (entries more : Entries α) :
    keys (entries ++ more) = keys entries ++ keys more :=
  List.map_append

theorem get?_insert_self (key : String) (value : α) (entries : Entries α) :
    get? key (insert key value entries) = some value := by
  induction entries with
  | nil => simp [insert, get?]
  | cons entry rest ih =>
    obtain ⟨k, v⟩ := entry
    by_cases h : k = key <;> simp [insert, get?, h, ih]

theorem get?_insert_of_ne {key other : String} (h : other ≠ key) (value : α) (entries : Entries α) :
    get? other (insert key value entries) = get? other entries := by
  induction entries with
  | nil => simp [insert, get?, Ne.symm h]
  | cons entry rest ih =>
    obtain ⟨k, v⟩ := entry
    by_cases hk : k = key
    · subst hk; simp [insert, get?, Ne.symm h]
    · by_cases ho : k = other
      · subst ho; simp [insert, get?, h]
      · simp [insert, get?, hk, ho, ih]

theorem get?_insert (key other : String) (value : α) (entries : Entries α) :
    get? other (insert key value entries) = if other = key then some value else get? other entries := by
  split
  · next h => rw [h, get?_insert_self]
  · next h => exact get?_insert_of_ne h value entries

theorem get?_eq_none_of_notMem_keys {key : String} {entries : Entries α} (h : key ∉ keys entries) :
    get? key entries = none := by
  induction entries with
  | nil => rfl
  | cons entry rest ih =>
    obtain ⟨k, v⟩ := entry
    rw [keys, List.map_cons, List.mem_cons, not_or] at h
    rw [get?, if_neg (Ne.symm h.1)]
    exact ih h.2

theorem get?_mapValues (f : String → α → β) (key : String) (entries : Entries α) :
    get? key (mapValues f entries) = (get? key entries).map (f key) := by
  induction entries with
  | nil => rfl
  | cons entry rest ih =>
    obtain ⟨k, v⟩ := entry
    simp only [mapValues, List.map_cons, get?] at ih ⊢
    split
    · next h => rw [h]; rfl
    · exact ih

theorem keys_mapValues (f : String → α → β) (entries : Entries α) :
    keys (mapValues f entries) = keys entries :=
  List.map_map

theorem keys_insert (key : String) (value : α) (entries : Entries α) :
    keys (insert key value entries) =
      if key ∈ keys entries then keys entries else keys entries ++ [key] := by
  induction entries with
  | nil => simp [insert, keys]
  | cons entry rest ih =>
    obtain ⟨k, v⟩ := entry
    by_cases hk : k = key
    · simp [insert, keys, hk]
    · have hk' : ¬key = k := fun h => hk h.symm
      simp only [keys] at ih
      by_cases hm : key ∈ rest.map Prod.fst <;> simp [insert, keys, hk, hk', hm, ih]

theorem insert_of_nodup {key : String} {others : List String} {done : Entries α}
    (h : (keys done ++ key :: others).Nodup) (value : α) :
    insert key value done = done ++ [(key, value)] := by
  have hnew : key ∉ keys done :=
    fun hmem => (List.nodup_append.1 h).2.2 key hmem key List.mem_cons_self rfl
  clear h
  induction done with
  | nil => rfl
  | cons entry rest ih =>
    obtain ⟨k, v⟩ := entry
    rw [keys_cons, List.mem_cons, not_or] at hnew
    rw [insert, if_neg (Ne.symm hnew.1), ih hnew.2, List.cons_append]

theorem nodup_keys_insert {key : String} {value : α} {done : Entries α} (h : (keys done).Nodup) :
    (keys (insert key value done)).Nodup := by
  rw [keys_insert]
  split
  · exact h
  · next hnew =>
    refine List.nodup_append.2 ⟨h, by simp, fun other hother k hk hsame => hnew ?_⟩
    rwa [← List.mem_singleton.1 hk, ← hsame]

end Entries

end ReportQuery
