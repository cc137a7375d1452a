-- SUMMARY: The directory of a command is the text before its last name, without the void segments at the end.
import Mathlib.Data.List.TakeWhile
import ScriptExec.Path

/-!
# Containing directories

The text before the last slash of a path may end in segments that name nothing. Without these
(`Path.trimmed`) it is the command's directory (`containingDir_append`), and it is followed by the same
names but for some `.` at the end (`parts_trimmed`).
-/

namespace ScriptExec.Path

/-- The path without the void segments at its end. The slash of the root, or a leading `.`, stays. -/
def trimmed (path : Path) : Path :=
  path.take path.bodyStart ++ (dropVoid (path.drop path.bodyStart).reverse).reverse

/-- The segments that are not empty: the names a path is followed by, if no slash is at its end. -/
def parts (path : Path) : List Bytes :=
  path.segments.filter fun segment => !segment.isEmpty

variable {path before : Path} {name segment reversed rest : Bytes}

/-! ## Segments -/

theorem segments_append (before : Path) (name : Bytes) :
    segments (before ++ Byte.slash :: name) = before.segments ++ segments name :=
  List.splitOn_append_cons_self before name

theorem segments_of_not_mem (hname : Byte.slash ∉ name) : segments name = [name] :=
  List.splitOn_eq_singleton hname

@[simp]
theorem parts_nil : parts [] = [] := rfl

theorem parts_append (before : Path) (name : Bytes) :
    parts (before ++ Byte.slash :: name) = before.parts ++ parts name := by
  simp [parts, segments_append]

@[simp]
theorem parts_slash_cons (path : Path) : parts (Byte.slash :: path) = path.parts :=
  parts_append [] path

theorem parts_of_not_mem (hname : Byte.slash ∉ name) (hne : name ≠ []) : parts name = [name] := by
  simp [parts, segments_of_not_mem hname, hne]

theorem ne_nil_of_not_isVoid (h : isVoid name = false) : name ≠ [] := by
  rintro rfl
  simp [isVoid] at h

theorem isVoid_reverse (segment : Bytes) : isVoid segment.reverse = isVoid segment := by
  rw [Bool.eq_iff_iff]
  simp [isVoid, here, List.reverse_eq_iff]

theorem lastSegment_append (hsegment : Byte.slash ∉ segment) :
    lastSegment (segment ++ Byte.slash :: rest) = (segment, rest) := by
  have hall : ∀ b ∈ segment, (b != Byte.slash) = true := by
    intro b hb
    simp only [bne_iff_ne]
    rintro rfl
    exact hsegment hb
  simp [lastSegment, List.takeWhile_append_of_pos hall, List.dropWhile_append_of_pos hall]

theorem lastSegment_of_not_mem (hsegment : Byte.slash ∉ segment) :
    lastSegment segment = (segment, []) := by
  have hall : ∀ b ∈ segment, (b != Byte.slash) = true := by
    intro b hb
    simp only [bne_iff_ne]
    rintro rfl
    exact hsegment hb
  rw [lastSegment, List.takeWhile_eq_self_iff.mpr hall, List.dropWhile_eq_nil_iff.mpr hall]
  rfl

/-- The parts of a text from its end: those before the last segment, and that segment if it names
anything. -/
theorem parts_reverse (reversed : Bytes) :
    parts reversed.reverse = parts (lastSegment reversed).2.reverse ++
      if (lastSegment reversed).1 = [] then [] else [(lastSegment reversed).1.reverse] := by
  by_cases hslash : Byte.slash ∈ reversed
  · obtain ⟨segment, rest, rfl, hsegment⟩ := List.eq_append_cons_of_mem hslash
    rw [lastSegment_append hsegment]
    simp only [List.reverse_append, List.reverse_cons, List.append_assoc, List.singleton_append,
      parts_append, List.append_cancel_left_eq]
    split
    · simp_all
    · rw [parts_of_not_mem (by simpa using hsegment) (by simpa)]
  · rw [lastSegment_of_not_mem hslash]
    by_cases hne : reversed = []
    · simp [hne]
    · simp [hne, parts_of_not_mem, hslash]

/-! ## Dropping void segments -/

theorem dropVoid_of_not_isVoid (h : isVoid (lastSegment reversed).1 = false) :
    dropVoid reversed = reversed := by
  rw [dropVoid]
  split
  · rename_i hnil
    exact hnil.symm
  · rw [if_neg (by simp [h])]

theorem dropVoid_suffix (reversed : Bytes) : dropVoid reversed <:+ reversed := by
  fun_induction dropVoid reversed with
  | case1 => exact List.suffix_refl _
  | case2 reversed hne hvoid ih =>
    refine ih.trans ?_
    exact (List.drop_suffix _ _).trans (List.dropWhile_suffix _)
  | case3 => exact List.suffix_refl _

@[simp]
theorem trimmed_nil : trimmed [] = [] := by
  simp [trimmed, dropVoid]

/-- What remains does not end in a slash. -/
theorem dropVoid_head (reversed : Bytes) : (dropVoid reversed).head? ≠ some Byte.slash := by
  fun_induction dropVoid reversed with
  | case1 => simp
  | case2 reversed hne hvoid ih => exact ih
  | case3 reversed hne hvoid =>
    intro hhead
    obtain ⟨rest, rfl⟩ : ∃ rest, reversed = Byte.slash :: rest := by
      cases reversed with
      | nil => cases hhead
      | cons b rest =>
        cases hhead
        exact ⟨rest, rfl⟩
    simp [lastSegment, isVoid] at hvoid

/-- What is dropped has no parts but `.`. -/
theorem parts_dropVoid (reversed : Bytes) :
    ∃ k, parts reversed.reverse = parts (dropVoid reversed).reverse ++ List.replicate k here := by
  fun_induction dropVoid reversed with
  | case1 => exact ⟨0, rfl⟩
  | case2 reversed hne hvoid ih =>
    obtain ⟨k, hk⟩ := ih
    rw [parts_reverse, hk]
    split
    · exact ⟨k, by simp⟩
    · rename_i hsegment
      have hhere : (lastSegment reversed).1 = here := by simpa [isVoid, hsegment] using hvoid
      refine ⟨k + 1, ?_⟩
      rw [hhere, List.replicate_succ', List.append_assoc]
      rfl
  | case3 => exact ⟨0, by simp⟩

/-! ## Paths without void segments at the end -/

/-- A path begins with a slash, with a segment `.`, or with neither. -/
theorem exists_bodyStart (path : Path) :
    (∃ body, path = Byte.slash :: body) ∨
      (∃ body, path = Byte.dot :: body ∧ (body = [] ∨ ∃ rest, body = Byte.slash :: rest)) ∨
      path.isAbsolute = false ∧ path.startsHere = false := by
  rcases path with _ | ⟨b, body⟩
  · exact .inr (.inr ⟨rfl, rfl⟩)
  · by_cases hslash : b = Byte.slash
    · exact .inl ⟨body, by rw [hslash]⟩
    · by_cases hhere : startsHere (b :: body) = true
      · refine .inr (.inl ⟨body, ?_⟩)
        rcases body with _ | ⟨b', rest⟩ <;> simp_all [startsHere]
      · exact .inr (.inr ⟨by simpa [isAbsolute] using hslash, by simpa using hhere⟩)

theorem startsHere_dot {body : Bytes} (h : body = [] ∨ ∃ rest, body = Byte.slash :: rest) :
    startsHere (Byte.dot :: body) = true := by
  rcases h with rfl | ⟨rest, rfl⟩ <;> rfl

theorem trimmed_slash (body : Bytes) :
    trimmed (Byte.slash :: body) = Byte.slash :: (dropVoid body.reverse).reverse := rfl

theorem trimmed_dot {body : Bytes} (h : body = [] ∨ ∃ rest, body = Byte.slash :: rest) :
    trimmed (Byte.dot :: body) = Byte.dot :: (dropVoid body.reverse).reverse := by
  simp [trimmed, bodyStart, startsHere_dot h]

theorem trimmed_of_relative (habs : path.isAbsolute = false) (hhere : path.startsHere = false) :
    path.trimmed = (dropVoid path.reverse).reverse := by
  simp [trimmed, bodyStart, habs, hhere]

theorem parts_dot {body : Bytes} (h : body = [] ∨ ∃ rest, body = Byte.slash :: rest) :
    parts (Byte.dot :: body) = here :: parts body := by
  rcases h with rfl | ⟨rest, rfl⟩
  · rfl
  · rw [parts_slash_cons]
    exact parts_append [Byte.dot] rest

theorem dropVoid_rest {body : Bytes} (h : body = [] ∨ ∃ rest, body = Byte.slash :: rest) :
    (dropVoid body.reverse).reverse = [] ∨
      ∃ rest, (dropVoid body.reverse).reverse = Byte.slash :: rest := by
  have hprefix : (dropVoid body.reverse).reverse <+: body := by
    simpa using List.reverse_prefix.mpr (dropVoid_suffix body.reverse)
  rcases h with rfl | ⟨rest, rfl⟩
  · exact .inl (List.prefix_nil.mp hprefix)
  · rcases List.prefix_cons_iff.mp hprefix with hnil | ⟨left, hleft, -⟩
    · exact .inl hnil
    · exact .inr ⟨left, hleft⟩

theorem parts_trimmed (path : Path) :
    ∃ k, path.parts = path.trimmed.parts ++ List.replicate k here := by
  rcases path.exists_bodyStart with ⟨body, rfl⟩ | ⟨body, rfl, hbody⟩ | ⟨habs, hhere⟩
  · obtain ⟨k, hk⟩ := parts_dropVoid body.reverse
    rw [List.reverse_reverse] at hk
    exact ⟨k, by rw [trimmed_slash, parts_slash_cons, parts_slash_cons, hk]⟩
  · obtain ⟨k, hk⟩ := parts_dropVoid body.reverse
    rw [List.reverse_reverse] at hk
    refine ⟨k, ?_⟩
    rw [trimmed_dot hbody, parts_dot hbody, parts_dot (dropVoid_rest hbody), hk, List.cons_append]
  · obtain ⟨k, hk⟩ := parts_dropVoid path.reverse
    rw [List.reverse_reverse] at hk
    exact ⟨k, by rw [trimmed_of_relative habs hhere, hk]⟩

theorem trimmed_prefix (path : Path) : path.trimmed <+: path := by
  have hbody : (dropVoid (path.drop path.bodyStart).reverse).reverse <+: path.drop path.bodyStart := by
    simpa using List.reverse_prefix.mpr (dropVoid_suffix (path.drop path.bodyStart).reverse)
  have hpath := (List.prefix_append_right_inj (path.take path.bodyStart)).mpr hbody
  rwa [List.take_append_drop] at hpath

/-- Only the root still ends in a slash. -/
theorem trimmed_getLast? (path : Path) :
    path.trimmed = root ∨ path.trimmed.getLast? ≠ some Byte.slash := by
  have hlast : ∀ reversed, (dropVoid reversed).reverse.getLast? ≠ some Byte.slash := by
    intro reversed
    rw [List.getLast?_reverse]
    exact dropVoid_head reversed
  rcases path.exists_bodyStart with ⟨body, rfl⟩ | ⟨body, rfl, hbody⟩ | ⟨habs, hhere⟩
  · have hbody := hlast body.reverse
    rw [trimmed_slash]
    generalize (dropVoid body.reverse).reverse = left at *
    cases left with
    | nil => exact .inl rfl
    | cons b rest => exact .inr (by simpa using hbody)
  · have hleft := hlast body.reverse
    rw [trimmed_dot hbody]
    generalize (dropVoid body.reverse).reverse = left at *
    cases left with
    | nil => exact .inr (by decide)
    | cons b rest => exact .inr (by simpa using hleft)
  · rw [trimmed_of_relative habs hhere]
    exact .inr (hlast _)

/-- A path that starts with neither a slash nor a segment `.` has a part that is not void. -/
theorem exists_part (hne : path ≠ []) (habs : path.isAbsolute = false)
    (hhere : path.startsHere = false) : ∃ part ∈ path.parts, part ≠ here := by
  by_cases hslash : Byte.slash ∈ path
  · obtain ⟨first, rest, rfl, hfirst⟩ := List.eq_append_cons_of_mem hslash
    have hfirst' : first ≠ [] := by
      rintro rfl
      simp [isAbsolute] at habs
    refine ⟨first, by simp [parts_append, parts_of_not_mem hfirst hfirst'], ?_⟩
    rintro rfl
    simp [startsHere, here] at hhere
  · refine ⟨path, by simp [parts_of_not_mem hslash hne], ?_⟩
    rintro rfl
    simp [startsHere, here] at hhere

theorem trimmed_ne_nil (hne : path ≠ []) : path.trimmed ≠ [] := by
  rcases path.exists_bodyStart with ⟨body, rfl⟩ | ⟨body, rfl, hbody⟩ | ⟨habs, hhere⟩
  · simp [trimmed_slash]
  · simp [trimmed_dot hbody]
  · intro hnil
    obtain ⟨part, hpart, hnot⟩ := exists_part hne habs hhere
    obtain ⟨k, hk⟩ := path.parts_trimmed
    rw [hk, hnil, parts_nil, List.nil_append] at hpart
    exact hnot (List.eq_of_mem_replicate hpart)

@[simp]
theorem isAbsolute_trimmed (path : Path) : path.trimmed.isAbsolute = path.isAbsolute := by
  rcases path.exists_bodyStart with ⟨body, rfl⟩ | ⟨body, rfl, hbody⟩ | ⟨habs, hhere⟩
  · rfl
  · rw [trimmed_dot hbody]
    rfl
  · obtain ⟨gone, hgone⟩ := path.trimmed_prefix
    cases htrimmed : path.trimmed with
    | nil => rw [habs]; rfl
    | cons b rest => rw [← hgone, htrimmed]; rfl

/-! ## Containing directories -/

theorem bodyStart_append (hne : before ≠ []) :
    bodyStart (before ++ Byte.slash :: name) = before.bodyStart := by
  rcases before with _ | ⟨b, _ | ⟨b', rest⟩⟩
  · exact absurd rfl hne
  · simp [bodyStart, isAbsolute, startsHere]
  · simp [bodyStart, isAbsolute, startsHere]

theorem bodyStart_le (hne : path ≠ []) : path.bodyStart ≤ path.length := by
  have hlength := List.length_pos_iff.mpr hne
  unfold bodyStart
  split <;> omega

theorem dropVoid_name (hslash : Byte.slash ∉ name) (hname : isVoid name = false) :
    dropVoid name.reverse = name.reverse := by
  apply dropVoid_of_not_isVoid
  rwa [lastSegment_of_not_mem (by simpa using hslash), isVoid_reverse]

theorem dropVoid_append_name (hslash : Byte.slash ∉ name) (hname : isVoid name = false) :
    dropVoid (name.reverse ++ Byte.slash :: rest) = name.reverse ++ Byte.slash :: rest := by
  apply dropVoid_of_not_isVoid
  rwa [lastSegment_append (by simpa using hslash), isVoid_reverse]

theorem parent?_append (hslash : Byte.slash ∉ name) (hname : isVoid name = false)
    (hne : before ≠ []) : parent? (before ++ Byte.slash :: name) = some before.trimmed := by
  have hle := bodyStart_le hne
  have hbody : ((before ++ Byte.slash :: name).drop before.bodyStart).reverse =
      name.reverse ++ Byte.slash :: (before.drop before.bodyStart).reverse := by
    rw [List.drop_append_of_le_length hle]
    simp
  simp only [parent?, bodyStart_append hne, hbody, dropVoid_append_name hslash hname]
  have hcons : name.reverse ++ Byte.slash :: (before.drop before.bodyStart).reverse ≠ [] := by simp
  split
  · contradiction
  · rw [lastSegment_append (by simpa using hslash), List.take_append_of_le_length hle]
    rfl

/-- The directory of a path with a slash in it is what stands before its last name, and the root if that
leaves nothing. -/
theorem containingDir_append (hslash : Byte.slash ∉ name) (hname : isVoid name = false) :
    containingDir (before ++ Byte.slash :: name) =
      if before = [] then root else before.trimmed := by
  by_cases hne : before = []
  · subst hne
    have hbody := dropVoid_name hslash hname
    have hcons : name.reverse ≠ [] := by simpa using ne_nil_of_not_isVoid hname
    have hparent : parent? (Byte.slash :: name) = some root := by
      rw [parent?, show bodyStart (Byte.slash :: name) = 1 from rfl, List.drop_one, List.tail_cons,
        hbody]
      split
      · contradiction
      · rw [lastSegment_of_not_mem (by simpa using hslash)]
        simp [dropVoid, root]
    rw [List.nil_append, containingDir, hparent, if_pos rfl]
    rfl
  · rw [if_neg hne, containingDir, parent?_append hslash hname hne]
    have htrimmed := trimmed_ne_nil hne
    cases hcases : before.trimmed with
    | nil => contradiction
    | cons b rest => rfl

theorem isAbsolute_of_not_mem (hslash : Byte.slash ∉ name) : isAbsolute name = false := by
  cases name with
  | nil => rfl
  | cons b rest =>
    have hb : b ≠ Byte.slash := fun hb => hslash (hb ▸ List.mem_cons_self)
    simpa [isAbsolute] using hb

theorem bodyStart_of_not_mem (hslash : Byte.slash ∉ name) (hname : isVoid name = false) :
    bodyStart name = 0 := by
  rcases exists_bodyStart name with ⟨body, rfl⟩ | ⟨body, rfl, rfl | ⟨rest, rfl⟩⟩ | ⟨habs, hhere⟩
  · simp at hslash
  · cases hname
  · simp at hslash
  · simp [bodyStart, habs, hhere]

/-- The directory of a bare name is the root. -/
theorem containingDir_of_not_mem (hslash : Byte.slash ∉ name) (hname : isVoid name = false) :
    containingDir name = root := by
  have hparent : parent? name = some [] := by
    rw [parent?, bodyStart_of_not_mem hslash hname, List.drop_zero,
      dropVoid_name hslash hname]
    have hcons : name.reverse ≠ [] := by simpa using ne_nil_of_not_isVoid hname
    split
    · contradiction
    · rw [lastSegment_of_not_mem (by simpa using hslash)]
      simp [dropVoid]
  rw [containingDir, hparent]

end ScriptExec.Path
