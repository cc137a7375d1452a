-- SUMMARY: The text of a path tells the directory in which its last name is looked up.
import Mathlib
import ScriptExec.Proofs.Executor.Spawning
import ScriptExec.Proofs.Host.ContainingDir
import ScriptExec.Proofs.Path.Stripped

/-!
# Directories of lookups

Following a path ends with its last name being looked up in a directory. `Path.containingDir` names that
directory: to look the path up is to go there and to look the name up, whatever comes of either
(`locate_through_containingDir`). The directory's own text is the one before the last slash without the slashes
and the `/.` at its end (`containing_directory_of_text`).
-/

namespace ScriptExec.Host.FileTree

open ScriptExec.Path (here containingDir stripped)

variable {tree : FileTree} {links : Nat} {dir id : NodeId} {node : Node}
variable {path before : Path} {name last : Bytes} {place : Place} {cause : IoError}

/-! ## Last names -/

/-- How many links are left makes no difference to a last name that is not followed. -/
theorem walk_last_links (links links' : Nat) :
    tree.walk false links dir [last] = tree.walk false links' dir [last] := by
  simp [walk]

theorem walk_last_error (h : tree.enter dir = .error cause) : tree.walk false links dir [last] = .error cause := by
  simp [walk, h]

theorem hop_here_eq (tree : FileTree) (links : Nat) (dir : NodeId) :
    tree.hop links dir here = (tree.enter dir).map fun _ => (links, dir, []) := by
  have hshort : ¬maxName < here.length := by decide
  unfold hop
  cases tree.enter dir with
  | error cause => rfl
  | ok found => simp [hshort, Except.map]

/-- Names `.` in front of a last name lead nowhere else, and fail as that name does. -/
theorem walk_last_after_here (tree : FileTree) (links : Nat) (dir : NodeId) (k : Nat) (last : Bytes) :
    ((tree.approach links dir (List.replicate k here)).bind fun reached =>
      tree.walk false reached.1 reached.2 [last]) = tree.walk false links dir [last] := by
  induction k with
  | zero =>
    rw [List.replicate_zero, approach]
    rfl
  | succ k ih =>
    have hhop := tree.hop_here_eq links dir
    rw [List.replicate_succ, approach]
    cases henter : tree.enter dir with
    | error cause =>
      rw [henter] at hhop
      rw [walk_last_error henter]
      split <;> simp_all [Except.map, Except.bind]
    | ok found =>
      rw [henter] at hhop
      split <;> simp_all [Except.map]

/-- A name is looked up in directories only. -/
theorem isDirectory_of_walk_last (h : tree.walk false links dir [last] = .ok place)
    (hnode : tree.node? dir = some node) : node.isDirectory = true := by
  cases henter : tree.enter dir with
  | error cause =>
    rw [walk_last_error henter] at h
    cases h
  | ok found =>
    simp only [enter, hnode] at henter
    unfold Node.isDirectory
    split at henter
    · rfl
    · cases henter

/-! ## Paths and their directories -/

theorem resolve_eq_bind (tree : FileTree) (dir : NodeId) (follow : Bool) (path : Path) :
    tree.resolve dir follow path = (tree.locate dir follow path).bind fun place =>
      (target place).bind fun id =>
        match tree.node? id with
        | some node => .ok (id, node)
        | none => .error .noEntry := by
  unfold resolve
  cases tree.locate dir follow path with
  | error cause => rfl
  | ok place =>
    cases hplace : place.node with
    | none => simp [target, hplace, bind, Except.bind]
    | some id => cases hnode : tree.node? id <;> simp [target, hplace, hnode, bind, Except.bind]

/-- After names that lead somewhere, a last name is looked up there. -/
theorem approach_bind_walk_last (tree : FileTree) (links : Nat) (dir : NodeId) (names : List Bytes) (last : Bytes) :
    ((tree.approach links dir names).bind fun reached => tree.walk false reached.1 reached.2 [last]) =
      ((tree.walk true links dir names).bind target).bind fun id => tree.walk false links id [last] := by
  rw [← approach_target]
  cases tree.approach links dir names with
  | error cause => rfl
  | ok reached => exact walk_last_links _ _

/-- The names before the last one and the directory's own lead to the same lookup. -/
theorem walk_through_containingDir (hslash : Byte.slash ∉ name) (hname : Path.isVoid name = false)
    (links : Nat) (start : NodeId) :
    tree.walk false links start (steps (before ++ Byte.slash :: name)) =
      ((tree.walk true links start (steps (containingDir (before ++ Byte.slash :: name)))).bind target).bind
        fun id => tree.walk false links id [name] := by
  obtain ⟨k, hparts⟩ := before.parts_trimmed
  have hwalk : tree.walk false links start (steps (before ++ Byte.slash :: name)) =
      (tree.approach links start before.trimmed.parts).bind fun reached =>
        tree.walk false reached.1 reached.2 [name] := by
    rw [steps_append hslash (Path.ne_nil_of_not_isVoid hname), walk_append_last, hparts, approach_append]
    cases tree.approach links start before.trimmed.parts with
    | error cause => rfl
    | ok reached => exact walk_last_after_here tree reached.1 reached.2 k name
  rw [hwalk, ← approach_bind_walk_last]
  rcases steps_containingDir before hslash hname with hsteps | ⟨hnil, hsteps⟩
  · rw [hsteps]
  · rw [hnil, hsteps]
    exact (walk_last_after_here tree links start 0 name).trans (walk_last_after_here tree links start 1 name).symm

theorem containingDir_subset (before : Path) (hslash : Byte.slash ∉ name) (hname : Path.isVoid name = false) :
    containingDir (before ++ Byte.slash :: name) ⊆ before ++ [Byte.slash] ∧
      (containingDir (before ++ Byte.slash :: name)).length ≤ before.length + 1 := by
  rw [Path.containingDir_append hslash hname]
  split
  · simp [Path.root]
  · have hprefix := before.trimmed_prefix
    exact ⟨List.Subset.trans hprefix.subset (List.subset_append_left ..), Nat.le_succ_of_le hprefix.length_le⟩

theorem locate_name_of_accepted (hslash : Byte.slash ∉ name) (hne : name ≠ []) (hnul : Byte.nul ∉ name)
    (hshort : name.length < maxPath) :
    tree.locate dir false name = tree.walk false maxLinks dir [name] := by
  rw [locate_of_accepted hne hnul hshort, startOf, Path.isAbsolute_of_not_mem hslash, steps_of_not_mem hslash hne]
  rfl

/-- To look a path up is to go to its directory and to look its last name up there. -/
theorem locate_through_containingDir (tree : FileTree) (dir : NodeId) (hslash : Byte.slash ∉ name)
    (hname : Path.isVoid name = false) (hnul : Byte.nul ∉ before ++ Byte.slash :: name)
    (hshort : (before ++ Byte.slash :: name).length < maxPath) :
    tree.locate dir false (before ++ Byte.slash :: name) =
      (tree.resolve dir true (containingDir (before ++ Byte.slash :: name))).bind fun found =>
        tree.locate found.1 false name := by
  have hne := Path.ne_nil_of_not_isVoid hname
  obtain ⟨hsubset, hlength⟩ := containingDir_subset before hslash hname
  simp only [List.length_append, List.length_cons] at hshort
  have hlocate (id : NodeId) : tree.locate id false name = tree.walk false maxLinks id [name] := by
    apply locate_name_of_accepted hslash hne
    · intro hmem
      exact hnul (by simp [hmem])
    · omega
  have hdir : tree.locate dir true (containingDir (before ++ Byte.slash :: name)) =
      tree.walk true maxLinks (startOf dir (before ++ Byte.slash :: name))
        (steps (containingDir (before ++ Byte.slash :: name))) := by
    rw [← startOf_containingDir hslash hname]
    apply locate_of_accepted (Path.containingDir_ne_nil _)
    · intro hmem
      have hfound := hsubset hmem
      simp only [List.mem_append, List.mem_singleton] at hfound
      exact hnul (by simpa using .inl (hfound.resolve_right (by decide)))
    · omega
  rw [locate_of_accepted (by simp) hnul (by simpa using hshort), walk_through_containingDir hslash hname,
    resolve_eq_bind, hdir]
  simp only [hlocate]
  cases tree.walk true maxLinks _ (steps (containingDir (before ++ Byte.slash :: name))) with
  | error cause => rfl
  | ok place =>
    cases hid : target place with
    | error cause => simp [Except.bind, hid]
    | ok id =>
      cases hnode : tree.node? id with
      | none =>
        have henter : tree.enter id = .error .noEntry := by simp [enter, hnode]
        simp [Except.bind, hid, hnode, walk_last_error henter]
      | some node => simp [Except.bind, hid, hnode]

/-- The directory of a path is the text before its last slash without the slashes and the `/.` at its end, or the
root if nothing is left of that. It names the directory in which the last name is looked up: the one that is found
there, and to look the path up is to go to it and to look the name up. No path at all has an empty directory. -/
theorem containing_directory_of_text {before name : Bytes} (hslash : Byte.slash ∉ name) (hne : name ≠ [])
    (hhere : name ≠ here) :
    let path := before ++ Byte.slash :: name
    containingDir path = (if stripped before = [] then Path.root else stripped before) ∧
    (∀ (tree : FileTree) (dir : NodeId),
      (∀ place, tree.locate dir false path = .ok place →
        ∃ node, tree.resolve dir true (containingDir path) = .ok (place.dir, node) ∧ node.isDirectory = true) ∧
      (Byte.nul ∉ path → path.length < maxPath →
        tree.locate dir false path =
          (tree.resolve dir true (containingDir path)).bind fun found => tree.locate found.1 false name)) ∧
    ∀ path' : Path, containingDir path' ≠ [] := by
  intro path
  have hname : Path.isVoid name = false := by simp [Path.isVoid, hne, hhere]
  have hthrough (tree : FileTree) (dir : NodeId) (hnul : Byte.nul ∉ path) (hshort : path.length < maxPath) :=
    locate_through_containingDir tree dir hslash hname hnul hshort
  refine ⟨Path.containingDir_eq_stripped hslash hname, fun tree dir => ⟨?_, hthrough tree dir⟩,
    Path.containingDir_ne_nil⟩
  intro place hplace
  have hnul := not_mem_nul_of_locate hplace
  have hshort := length_lt_of_locate hplace
  rw [hthrough tree dir hnul hshort] at hplace
  obtain ⟨⟨id, node⟩, hdir, hlast⟩ := bind_eq_ok hplace
  obtain ⟨_, -, -, hnode⟩ := resolve_ok hdir
  rw [locate_name_of_accepted hslash hne (not_mem_nul_of_locate hlast) (length_lt_of_locate hlast)] at hlast
  rw [walk_last_dir hlast]
  exact ⟨node, hdir, isDirectory_of_walk_last hlast hnode⟩

/-- A leading `.` stays, and so does a slash that is written twice within. -/
theorem containing_directory_of_text_of_relative :
    let path := utf8 ".//bin/./tool"
    let tree := Executor.toolWorld.sys.tree
    containingDir path = utf8 ".//bin" ∧
      ∃ place node, tree.locate 1 false path = .ok place ∧ place.node = some 3 ∧
        tree.resolve 1 true (utf8 ".//bin") = .ok (place.dir, node) ∧
        tree.locate place.dir false (utf8 "tool") = .ok place := by
  intro path tree
  have hslash : Byte.slash ∉ utf8 "tool" := by decide +kernel
  have hne : utf8 "tool" ≠ [] ∧ utf8 "tool" ≠ here := by decide +kernel
  obtain ⟨htext, hlookup, -⟩ := @containing_directory_of_text (utf8 ".//bin/.") (utf8 "tool") hslash hne.1 hne.2
  have hstripped : stripped (utf8 ".//bin/.") = utf8 ".//bin" ∧ utf8 ".//bin" ≠ [] := by decide +kernel
  rw [hstripped.1, if_neg hstripped.2] at htext
  rw [htext] at hlookup
  obtain ⟨hfound, hthrough⟩ := hlookup tree 1
  have hplace : Executor.toolWorld.sys.tree.locate 1 false (utf8 ".//bin/./tool") =
      .ok ⟨2, utf8 "tool", some 3⟩ := by
    cbv
  obtain ⟨node, hdir, -⟩ := hfound _ hplace
  refine ⟨htext, _, node, hplace, rfl, hdir, ?_⟩
  rw [← hplace]
  have hnul : Byte.nul ∉ path := by decide +kernel
  have hshort : path.length < maxPath := by decide +kernel
  have hsame := hthrough hnul hshort
  rw [hdir] at hsame
  exact hsame.symm

end ScriptExec.Host.FileTree
