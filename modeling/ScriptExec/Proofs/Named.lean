-- SUMMARY: The keys of named entries are in strictly ascending order, however the entries were stored.
import ScriptExec.Named

/-!
# Keys of named entries

Storing under a key adds that key and no other one (`mem_keys_insert`), and it keeps the keys in ascending order
(`ascending_insert`), so a key never stands there twice.
-/

namespace ScriptExec.Named

variable {α : Type} {key key' : String} {value : α} {entries : Named α}

/-- Each key is less than all that come after it. -/
def Ascending (entries : Named α) : Prop :=
  entries.keys.Pairwise (· < ·)

theorem mem_keys_insert : key' ∈ (insert key value entries).keys ↔ key' = key ∨ key' ∈ entries.keys := by
  induction entries with
  | nil => simp [insert, keys]
  | cons entry rest ih =>
    simp only [keys] at ih
    unfold insert
    split
    · rename_i hsame
      simp [keys, hsame]
    · split
      · simp [keys]
      · simp only [keys, List.map_cons, List.mem_cons, ih]
        exact or_left_comm

theorem ascending_insert (key : String) (value : α) (h : Ascending entries) :
    Ascending (insert key value entries) := by
  induction entries with
  | nil => exact List.pairwise_singleton _ _
  | cons entry rest ih =>
    obtain ⟨hfirst, hrest⟩ := List.pairwise_cons.mp h
    unfold insert
    split
    · rename_i hsame
      rw [Ascending, keys, List.map_cons, List.pairwise_cons, hsame]
      exact ⟨hfirst, hrest⟩
    · rename_i hne
      split
      · rename_i hless
        refine List.pairwise_cons.mpr ⟨?_, h⟩
        intro other hother
        rcases List.mem_cons.mp hother with rfl | hother
        · exact hless
        · exact String.lt_trans hless (hfirst other hother)
      · rename_i hnot
        refine List.pairwise_cons.mpr ⟨?_, ih hrest⟩
        intro other hother
        rcases mem_keys_insert.mp hother with rfl | hother
        · refine Classical.byContradiction fun hnot' => hne ?_
          exact String.le_antisymm hnot' hnot
        · exact hfirst other hother

theorem isSome_find?_iff : (find? key entries).isSome = true ↔ key ∈ entries.keys := by
  induction entries with
  | nil => simp [find?, keys]
  | cons entry rest ih =>
    simp only [keys] at ih
    simp only [find?, keys, List.map_cons, List.mem_cons]
    split
    · rename_i hsame
      simp [hsame]
    · rename_i hne
      rw [ih]
      simp [Ne.symm hne]

/-- A key stands there once, or has no entry. -/
theorem Ascending.count_keys (h : Ascending entries) (key : String) :
    entries.keys.count key = if (find? key entries).isSome then 1 else 0 := by
  have hnodup : entries.keys.Nodup := h.imp String.ne_of_lt
  simp only [hnodup.count, isSome_find?_iff]

end ScriptExec.Named
