-- SUMMARY: What a lookup in a search path can find: the forms of its candidates.
import ScriptExec.Proofs.Path.ContainingDir
import ScriptExec.SearchPath

/-!
# Candidates of lookups

A candidate is absolute if what it is taken from is: the working directory, or an entry of the search path
(`candidates_isAbsolute`). For a bare name a candidate has a slash in it, unless it is the name itself,
taken from an empty entry (`candidates_of_bare`).
-/

namespace ScriptExec

namespace Path

theorem isAbsolute_join {base path : Path} (hbase : base.isAbsolute = true) :
    (join base path).isAbsolute = true := by
  cases base with
  | nil => cases hbase
  | cons b rest =>
    unfold join
    split
    · assumption
    · split <;> exact hbase

theorem isAbsolute_joinAll {base : Path} (hbase : base.isAbsolute = true) (segments : List Bytes) :
    (joinAll base segments).isAbsolute = true := by
  induction segments generalizing base with
  | nil => exact hbase
  | cons segment segments ih => exact ih (isAbsolute_join hbase)

theorem joinAll_ne_nil {base : Path} (hbase : base ≠ []) (segments : List Bytes) :
    joinAll base segments ≠ [] := by
  induction segments generalizing base with
  | nil => exact hbase
  | cons segment segments ih =>
    refine ih ?_
    unfold join
    split
    · rename_i habs
      rintro rfl
      cases habs
    · split <;> simp [hbase]

/-- A bare name has one component at most. -/
theorem componentCount_le {name : Bytes} (hslash : Byte.slash ∉ name) : componentCount name ≤ 1 := by
  have hnames : names name = [name].filter fun segment => !isVoid segment := by
    rw [names, segments_of_not_mem hslash]
  rw [componentCount, hnames]
  cases hvoid : isVoid name with
  | true =>
    rw [List.filter_cons_of_neg (by simp [hvoid])]
    split <;> simp
  | false =>
    have hstart := bodyStart_of_not_mem hslash hvoid
    unfold bodyStart at hstart
    split at hstart
    · cases hstart
    · rename_i hbody
      rw [if_neg hbody]
      exact List.length_filter_le _ [name]

/-- Joining puts a slash between, unless there is nothing before it. -/
theorem slash_mem_join {base path : Path} (hbase : base ≠ []) : Byte.slash ∈ join base path := by
  unfold join
  split
  · rename_i habs
    cases path with
    | nil => cases habs
    | cons b rest =>
      have hb : b = Byte.slash := by simpa [isAbsolute] using habs
      simp [hb]
  · split
    · rename_i hlast
      simp only [Bool.or_eq_true, List.isEmpty_iff, hbase, false_or, beq_iff_eq] at hlast
      exact List.mem_append_left _ (List.mem_of_getLast? hlast)
    · simp

end Path

namespace Lookup

variable {lookup : Lookup} {name : Bytes} {path : Path}

theorem mem_inEntries (h : path ∈ lookup.inEntries name) :
    ∃ entries, lookup.entries = some entries ∧
      ∃ entry ∈ split entries, path = Path.join (expandHome lookup.home entry) name := by
  unfold inEntries at h
  split at h
  · rename_i entries hentries
    obtain ⟨entry, hentry, rfl⟩ := List.mem_map.mp h
    exact ⟨entries, hentries, entry, hentry, rfl⟩
  · cases h

theorem candidates_isAbsolute (hcwd : ∀ cwd, lookup.cwd = some cwd → cwd.isAbsolute = true)
    (hentries : ∀ entries, lookup.entries = some entries → ∀ entry ∈ split entries,
      (expandHome lookup.home entry).isAbsolute = true)
    (h : path ∈ lookup.candidates name) : path.isAbsolute = true := by
  have hinEntries : path ∈ lookup.inEntries name → path.isAbsolute = true := by
    intro hpath
    obtain ⟨entries, hsome, entry, hentry, rfl⟩ := mem_inEntries hpath
    exact Path.isAbsolute_join (hentries entries hsome entry hentry)
  unfold candidates at h
  split at h
  · cases h
  · split at h
    · rename_i cwd hsome
      split at h
      · rw [List.mem_singleton] at h
        subst h
        unfold fromDir
        split
        · assumption
        · exact Path.isAbsolute_joinAll (hcwd cwd hsome) _
      · exact hinEntries h
    · exact hinEntries h

theorem expandHome_eq_nil {home : Option Bytes} {entry : Bytes} (h : expandHome home entry = []) :
    entry = [] := by
  unfold expandHome at h
  split at h
  · split at h
    · exact absurd h (Path.joinAll_ne_nil (by simp) _)
    · exact h
  · exact h

theorem ne_nil_of_mem_candidates (h : path ∈ lookup.candidates name) : name ≠ [] := by
  rintro rfl
  cases h

/-- A bare name is tried in the entries of the search path only. -/
theorem candidates_eq_inEntries (hslash : Byte.slash ∉ name) (hne : name ≠ []) :
    lookup.candidates name = lookup.inEntries name := by
  have hcount := Nat.not_lt.mpr (Path.componentCount_le hslash)
  unfold candidates
  rw [if_neg (by simpa using hne)]
  split
  · rw [if_neg hcount]
  · rfl

/-- A bare name is found as a path with a slash in it, or as itself where an entry is empty. -/
theorem candidates_of_bare (hslash : Byte.slash ∉ name) (h : path ∈ lookup.candidates name) :
    Byte.slash ∈ path ∨
      path = name ∧ ∃ entries, lookup.entries = some entries ∧ [] ∈ split entries := by
  rw [candidates_eq_inEntries hslash (ne_nil_of_mem_candidates h)] at h
  obtain ⟨entries, hsome, entry, hentry, rfl⟩ := mem_inEntries h
  by_cases hbase : expandHome lookup.home entry = []
  · obtain rfl := expandHome_eq_nil hbase
    refine .inr ⟨?_, entries, hsome, hentry⟩
    rw [hbase, Path.join, if_neg (by simp [Path.isAbsolute_of_not_mem hslash])]
    rfl
  · exact .inl (Path.slash_mem_join hbase)

end Lookup

end ScriptExec
