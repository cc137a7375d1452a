-- SUMMARY: Looking up keys in lists of entries that were changed.

/-!
# Looking up keys

Which value a list has for a key, once the entries of a key have been taken away or replaced.
-/

namespace ScriptExec.Entries

variable {κ β : Type} [BEq κ] [LawfulBEq κ] [DecidableEq κ] {k k' : κ} {v : β}
variable {entry : κ × β} {entries : List (κ × β)}

theorem lookup_entry :
    (entry :: entries).lookup k = if k = entry.1 then some entry.2 else entries.lookup k := by
  obtain ⟨k', v⟩ := entry
  by_cases hk : k = k'
  · subst hk
    simp
  · have hne : (k == k') = false := beq_eq_false_iff_ne.mpr hk
    rw [List.lookup_cons, hne, if_neg hk]

theorem lookup_filter_ne :
    (entries.filter fun entry => entry.1 != k).lookup k' = if k' = k then none else entries.lookup k' := by
  induction entries with
  | nil => simp
  | cons first rest ih =>
    by_cases hfirst : first.1 = k
    · rw [List.filter_cons_of_neg (by simp [hfirst]), ih, lookup_entry, hfirst]
      split <;> rfl
    · rw [List.filter_cons_of_pos (by simp [hfirst]), lookup_entry, lookup_entry, ih]
      by_cases hk : k' = k
      · subst hk
        rw [if_neg (Ne.symm hfirst), if_pos rfl, if_pos rfl]
      · rw [if_neg hk, if_neg hk]

theorem lookup_map_replace :
    (entries.map fun entry => if entry.1 == k then (k, v) else entry).lookup k' =
      if k' = k then (entries.lookup k).map fun _ => v else entries.lookup k' := by
  induction entries with
  | nil => simp
  | cons first rest ih =>
    rw [List.map_cons, lookup_entry, lookup_entry, lookup_entry, ih]
    by_cases hfirst : first.1 = k
    · by_cases hk : k' = k
      · simp [hfirst, hk]
      · simp [hfirst, hk]
    · by_cases hk : k' = k
      · subst hk
        simp [hfirst, Ne.symm hfirst]
      · simp [hfirst, hk]

omit [DecidableEq κ] in
theorem mem_of_lookup (h : entries.lookup k = some v) : (k, v) ∈ entries := by
  obtain ⟨before, after, rfl, -⟩ := List.lookup_eq_some_iff.mp h
  simp

end ScriptExec.Entries
