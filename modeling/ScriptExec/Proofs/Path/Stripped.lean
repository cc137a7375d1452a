-- SUMMARY: The directory of a command is the text before its name, without the slashes and the `/.` at the end.
import ScriptExec.Proofs.Path.ContainingDir

/-!
# Texts without void ends

A text may end in slashes and in `/.`. Taken off one after the other, from the end on (`stripped`), they leave
the text that a path has for its directory (`containingDir_eq_stripped`), although that one is found segment by
segment.
-/

namespace ScriptExec.Path

/-- A reversed text without the slashes and the `/.` it starts with. -/
def stripStart : Bytes → Bytes
  | 0x2f :: rest => stripStart rest
  | 0x2e :: 0x2f :: rest => stripStart rest
  | reversed => reversed

/-- A text without the slashes and the `/.` at its end. -/
def stripped (text : Bytes) : Bytes :=
  (stripStart text.reverse).reverse

variable {path before : Path} {name reversed text : Bytes}

@[simp]
theorem stripStart_slash (reversed : Bytes) : stripStart (Byte.slash :: reversed) = stripStart reversed := rfl

@[simp]
theorem stripStart_dot_slash (reversed : Bytes) :
    stripStart (Byte.dot :: Byte.slash :: reversed) = stripStart reversed := rfl

theorem lastSegment_append_of_mem (hslash : Byte.slash ∈ reversed) (text : Bytes) :
    lastSegment (reversed ++ text) = ((lastSegment reversed).1, (lastSegment reversed).2 ++ text) := by
  obtain ⟨segment, rest, rfl, hsegment⟩ := List.eq_append_cons_of_mem hslash
  rw [lastSegment_append hsegment, List.append_assoc, List.cons_append, lastSegment_append hsegment]

theorem stripStart_of_not_isVoid (h : isVoid (lastSegment reversed).1 = false) :
    stripStart reversed = reversed := by
  unfold stripStart
  split
  · cases h
  · cases h
  · rfl

theorem stripStart_of_isVoid (hslash : Byte.slash ∈ reversed) (h : isVoid (lastSegment reversed).1 = true) :
    stripStart reversed = stripStart (lastSegment reversed).2 := by
  obtain ⟨segment, rest, rfl, hsegment⟩ := List.eq_append_cons_of_mem hslash
  rw [lastSegment_append hsegment] at h ⊢
  simp only [isVoid, Bool.or_eq_true, List.isEmpty_iff, beq_iff_eq] at h
  rcases h with rfl | rfl
  · rfl
  · rfl

/-- A text without a slash whose only segment is void. -/
theorem eq_here_of_isVoid (hslash : Byte.slash ∉ reversed) (hne : reversed ≠ [])
    (h : isVoid (lastSegment reversed).1 = true) : reversed = here := by
  rw [lastSegment_of_not_mem hslash] at h
  simpa [isVoid, hne] using h

/-! ## Segments and ends -/

/-- Behind the slash of the root all void segments go, and the slash with them if nothing else is there. -/
theorem stripStart_append_slash (reversed : Bytes) :
    stripStart (reversed ++ [Byte.slash]) =
      if dropVoid reversed = [] then [] else dropVoid reversed ++ [Byte.slash] := by
  fun_induction dropVoid reversed with
  | case1 => rfl
  | case2 reversed hne hvoid ih =>
    rw [← ih]
    by_cases hslash : Byte.slash ∈ reversed
    · have happend := lastSegment_append_of_mem hslash [Byte.slash]
      rw [stripStart_of_isVoid (List.mem_append_left _ hslash) (by rwa [happend]), happend]
    · cases eq_here_of_isVoid hslash hne hvoid
      rfl
  | case3 reversed hne hvoid =>
    rw [if_neg hne]
    apply stripStart_of_not_isVoid
    by_cases hslash : Byte.slash ∈ reversed
    · rw [lastSegment_append_of_mem hslash]
      simpa using hvoid
    · rw [lastSegment_append hslash]
      rw [lastSegment_of_not_mem hslash] at hvoid
      simpa using hvoid

/-- Behind a leading `.`, which stays, they all go. -/
theorem stripStart_append_dot (h : reversed = [] ∨ reversed.getLast? = some Byte.slash) :
    stripStart (reversed ++ [Byte.dot]) = dropVoid reversed ++ [Byte.dot] := by
  fun_induction dropVoid reversed with
  | case1 => rfl
  | case2 reversed hne hvoid ih =>
    have hlast := h.resolve_left hne
    obtain ⟨segment, rest, rfl, hsegment⟩ := List.eq_append_cons_of_mem (List.mem_of_getLast? hlast)
    have hslash : Byte.slash ∈ segment ++ Byte.slash :: rest := by simp
    have happend := lastSegment_append_of_mem hslash [Byte.dot]
    rw [stripStart_of_isVoid (List.mem_append_left _ hslash) (by rwa [happend]), happend]
    apply ih
    rw [lastSegment_append hsegment]
    cases rest with
    | nil => exact .inl rfl
    | cons b rest => exact .inr (by simpa [List.getLast?_cons_cons] using hlast)
  | case3 reversed hne hvoid =>
    have hslash := List.mem_of_getLast? (h.resolve_left hne)
    apply stripStart_of_not_isVoid
    rw [lastSegment_append_of_mem hslash]
    simpa using hvoid

/-- Elsewhere something is left in front of them. -/
theorem stripStart_eq_dropVoid (h : dropVoid reversed ≠ []) : stripStart reversed = dropVoid reversed := by
  fun_induction dropVoid reversed with
  | case1 => contradiction
  | case2 reversed hne hvoid ih =>
    have hslash : Byte.slash ∈ reversed := by
      by_contra hslash
      rw [lastSegment_of_not_mem hslash, dropVoid] at h
      exact h rfl
    rw [stripStart_of_isVoid hslash hvoid]
    exact ih h
  | case3 reversed hne hvoid => exact stripStart_of_not_isVoid (by simpa using hvoid)

/-! ## Directories of paths -/

theorem stripped_slash (body : Bytes) :
    stripped (Byte.slash :: body) = if dropVoid body.reverse = [] then [] else trimmed (Byte.slash :: body) := by
  rw [stripped, List.reverse_cons, stripStart_append_slash, trimmed_slash]
  split <;> simp

theorem stripped_dot {body : Bytes} (h : body = [] ∨ ∃ rest, body = Byte.slash :: rest) :
    stripped (Byte.dot :: body) = trimmed (Byte.dot :: body) := by
  have hlast : body.reverse = [] ∨ body.reverse.getLast? = some Byte.slash := by
    rcases h with rfl | ⟨rest, rfl⟩
    · exact .inl rfl
    · exact .inr (by simp)
  rw [stripped, List.reverse_cons, stripStart_append_dot hlast, trimmed_dot h]
  simp

theorem stripped_of_relative (hne : path ≠ []) (habs : path.isAbsolute = false)
    (hhere : path.startsHere = false) : stripped path = path.trimmed := by
  have hkept := trimmed_ne_nil hne
  rw [trimmed_of_relative habs hhere] at hkept ⊢
  rw [stripped, stripStart_eq_dropVoid (by simpa using hkept)]

/-- The directory of a path is the text before its last slash, without what is void at the end of that, and the
root if nothing is left. -/
theorem containingDir_eq_stripped (hslash : Byte.slash ∉ name) (hname : isVoid name = false) :
    containingDir (before ++ Byte.slash :: name) =
      if stripped before = [] then root else stripped before := by
  rw [containingDir_append hslash hname]
  by_cases hne : before = []
  · rw [hne]
    rfl
  · rw [if_neg hne]
    have hkept := trimmed_ne_nil hne
    rcases before.exists_bodyStart with ⟨body, rfl⟩ | ⟨body, rfl, hbody⟩ | ⟨habs, hhere⟩
    · rw [stripped_slash]
      by_cases hvoid : dropVoid body.reverse = []
      · simp [hvoid, trimmed_slash, root]
      · simp [hvoid, hkept]
    · rw [stripped_dot hbody, if_neg hkept]
    · rw [stripped_of_relative hne habs hhere, if_neg hkept]

theorem containingDir_ne_nil (path : Path) : containingDir path ≠ [] := by
  unfold containingDir
  split
  · simp
  · simp [root]

example : stripped (utf8 "./usr/..//bin/.///./") = utf8 "./usr/..//bin" := by decide

end ScriptExec.Path
