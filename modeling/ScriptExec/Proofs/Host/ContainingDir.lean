-- SUMMARY: Whoever goes to the directory of a file's path is in the directory in which the file is looked up.
import ScriptExec.Host.System
import ScriptExec.Proofs.Host.Walk
import ScriptExec.Proofs.Path.ContainingDir

/-!
# Containing directories of files

The text before the last name of a path, as `Path.containingDir` has it, leads to the directory in which
that name is looked up (`locate_containingDir`). For a file that is no directory this covers every path
with a slash in it (`exists_name_of_file`).
-/

namespace ScriptExec.Host

open ScriptExec.Path (here containingDir)

namespace FileTree

variable {tree : FileTree} {follow : Bool} {links : Nat} {dir dir' id : NodeId} {node : Node}
variable {path before : Path} {name : Bytes} {place : Place} {reached : Nat × NodeId}

/-! ## Steps of paths -/

theorem steps_of_getLast? (hlast : path.getLast? ≠ some Byte.slash) : steps path = path.parts := by
  simp [steps, hlast, Path.parts]

theorem steps_append (hslash : Byte.slash ∉ name) (hne : name ≠ []) :
    steps (before ++ Byte.slash :: name) = before.parts ++ [name] := by
  have hlast : (before ++ Byte.slash :: name).getLast? ≠ some Byte.slash := by
    intro hlast
    rw [List.getLast?_append, List.getLast?_cons_of_ne_nil hne] at hlast
    cases hname : name.getLast? with
    | none => exact hne (List.getLast?_eq_none_iff.mp hname)
    | some b =>
      rw [hname] at hlast
      cases hlast
      exact hslash (List.mem_of_getLast? hname)
  rw [steps_of_getLast? hlast, Path.parts_append, Path.parts_of_not_mem hslash hne]

theorem steps_append_slash (before : Path) :
    steps (before ++ [Byte.slash]) = before.parts ++ [here] := by
  have hparts : Path.parts (before ++ [Byte.slash]) = before.parts ++ Path.parts [] :=
    Path.parts_append before []
  rw [Path.parts_nil, List.append_nil] at hparts
  have hslash : (before ++ [Byte.slash]).getLast? == some Byte.slash := by simp
  rw [steps, if_pos hslash]
  exact congrArg (· ++ [here]) hparts

/-- The directory of a path is followed by the parts before the path's last name, but for some `.` at the
end; the root by itself is followed by one. -/
theorem steps_containingDir (before : Path) (hslash : Byte.slash ∉ name)
    (hname : Path.isVoid name = false) :
    steps (containingDir (before ++ Byte.slash :: name)) = before.trimmed.parts ∨
      before.trimmed.parts = [] ∧ steps (containingDir (before ++ Byte.slash :: name)) = [here] := by
  rw [Path.containingDir_append hslash hname]
  split
  · rename_i hnil
    subst hnil
    exact .inr ⟨by simp, rfl⟩
  · rcases before.trimmed_getLast? with hroot | hlast
    · rw [hroot]
      exact .inr ⟨rfl, rfl⟩
    · exact .inl (steps_of_getLast? hlast)

theorem startOf_containingDir (hslash : Byte.slash ∉ name) (hname : Path.isVoid name = false) :
    startOf dir (containingDir (before ++ Byte.slash :: name)) =
      startOf dir (before ++ Byte.slash :: name) := by
  rw [Path.containingDir_append hslash hname]
  split
  · rename_i hnil
    subst hnil
    rfl
  · rename_i hne
    rw [startOf, startOf, Path.isAbsolute_trimmed]
    cases before with
    | nil => contradiction
    | cons b rest => rfl

/-! ## Where paths lead -/

theorem hop_here {next : Nat × NodeId × List Bytes} (h : tree.hop links dir here = .ok next) :
    next = (links, dir, []) := by
  unfold hop at h
  cases henter : tree.enter dir with
  | error cause => simp [henter] at h
  | ok found =>
    have hshort : ¬maxName < here.length := by decide
    simp only [henter, if_neg hshort, beq_self_eq_true, if_true, Except.ok.injEq] at h
    exact h.symm

/-- A name `.` leads nowhere else. -/
theorem approach_here (k : Nat) (h : tree.approach links dir (List.replicate k here) = .ok reached) :
    reached = (links, dir) := by
  induction k with
  | zero =>
    rw [List.replicate_zero, approach] at h
    cases h
    rfl
  | succ k ih =>
    rw [List.replicate_succ, approach] at h
    split at h
    · cases h
    · rename_i hhop
      cases hop_here hhop
      exact ih h

theorem locate_eq_walk (h : tree.locate dir follow path = .ok place) (follow' : Bool) :
    tree.locate dir follow' path = tree.walk follow' maxLinks (startOf dir path) (steps path) :=
  locate_walk h tree dir follow'

theorem resolve_ok (h : tree.resolve dir follow path = .ok (id, node)) :
    ∃ place, tree.locate dir follow path = .ok place ∧ place.node = some id ∧
      tree.node? id = some node := by
  obtain ⟨place, hplace, hfound⟩ := bind_eq_ok h
  refine ⟨place, hplace, ?_⟩
  cases hid : place.node with
  | none => simp [hid] at hfound
  | some id' =>
    cases hnode : tree.node? id' with
    | none => simp [hid, hnode] at hfound
    | some node' =>
      simp only [hid, hnode, Option.bind_some, Option.map_some, Except.ok.injEq,
        Prod.mk.injEq] at hfound
      obtain ⟨rfl, rfl⟩ := hfound
      exact ⟨rfl, hnode⟩

/-- An absolute path leads to the same node from everywhere. -/
theorem resolve_of_isAbsolute (habs : path.isAbsolute = true) (dir dir' : NodeId) :
    tree.resolve dir follow path = tree.resolve dir' follow path := by
  simp [resolve, locate, startOf, habs]

/-- The directory of a path is the one in which its last name is looked up. -/
theorem locate_containingDir (hslash : Byte.slash ∉ name) (hname : Path.isVoid name = false)
    (hplace : tree.locate dir true (before ++ Byte.slash :: name) = .ok place)
    (hdir : tree.resolve dir true (containingDir (before ++ Byte.slash :: name)) = .ok (id, node)) :
    ∃ found, tree.locate dir false (before ++ Byte.slash :: name) = .ok found ∧ found.dir = id := by
  obtain ⟨inside, hinside, hid, -⟩ := resolve_ok hdir
  have hcd := hinside
  rw [locate_eq_walk hinside, startOf_containingDir hslash hname] at hcd
  obtain ⟨left, hcd⟩ := approach_of_walk hcd hid
  have hfollowed := hplace
  rw [locate_eq_walk hplace, steps_append hslash (Path.ne_nil_of_not_isVoid hname),
    walk_append_last] at hfollowed
  obtain ⟨reached, hreached, hlast⟩ := bind_eq_ok hfollowed
  obtain ⟨found, hfound⟩ := walk_last_unfollowed hlast
  refine ⟨found, ?_, ?_⟩
  · rw [locate_eq_walk hplace, steps_append hslash (Path.ne_nil_of_not_isVoid hname),
      walk_append_last, hreached]
    exact hfound
  · rw [walk_last_dir hfound]
    -- Both ways go through the parts that are not void; what differs after that leads nowhere else.
    obtain ⟨k, hparts⟩ := before.parts_trimmed
    rw [hparts, approach_append] at hreached
    obtain ⟨common, hcommon, hrest⟩ := bind_eq_ok hreached
    rw [approach_here k hrest]
    rcases steps_containingDir before hslash hname with hsteps | ⟨hnil, hsteps⟩
    · rw [hsteps, hcommon] at hcd
      cases hcd
      rfl
    · rw [hsteps] at hcd
      rw [hnil, approach] at hcommon
      cases hcommon
      cases approach_here 1 hcd
      rfl

/-- What a last name `.` leads to is a directory. -/
theorem isDirectory_of_here {names : List Bytes}
    (h : tree.walk follow links dir (names ++ [here]) = .ok place) (hid : place.node = some id)
    (hnode : tree.node? id = some node) : node.isDirectory = true := by
  rw [walk_append_last] at h
  obtain ⟨reached, -, hlast⟩ := bind_eq_ok h
  rw [walk] at hlast
  have hshort : ¬maxName < here.length := by decide
  cases henter : tree.enter reached.2 with
  | error cause => simp [henter] at hlast
  | ok found =>
    simp only [henter, if_neg hshort, beq_self_eq_true, if_true, List.isEmpty_nil,
      Except.ok.injEq] at hlast
    subst hlast
    cases hid
    simp only [enter, hnode] at henter
    unfold Node.isDirectory
    split at henter
    · rfl
    · cases henter

theorem steps_of_not_mem (hslash : Byte.slash ∉ name) (hne : name ≠ []) : steps name = [name] := by
  rw [steps_of_getLast? fun hlast => hslash (List.mem_of_getLast? hlast),
    Path.parts_of_not_mem hslash hne]

/-- A bare name of a file that is no directory is not void. -/
theorem not_isVoid_of_file (hslash : Byte.slash ∉ name)
    (h : tree.resolve dir true name = .ok (id, node)) (hfile : node.isDirectory = false) :
    Path.isVoid name = false := by
  by_contra hvoid
  obtain ⟨place, hplace, hid, hnode⟩ := resolve_ok h
  simp only [Path.isVoid, Bool.not_eq_false, Bool.or_eq_true, beq_iff_eq, List.isEmpty_iff] at hvoid
  rcases hvoid with rfl | rfl
  · simp [locate] at hplace
  · rw [locate_eq_walk hplace, steps_of_not_mem hslash (by decide)] at hplace
    rw [← List.nil_append [here]] at hplace
    rw [isDirectory_of_here hplace hid hnode] at hfile
    cases hfile

/-- A bare name is looked up in the directory it is followed from. -/
theorem locate_bare (hslash : Byte.slash ∉ name) (hne : name ≠ [])
    (hplace : tree.locate dir true name = .ok place) :
    ∃ found, tree.locate dir false name = .ok found ∧ found.dir = dir := by
  have hstart : startOf dir name = dir := by simp [startOf, Path.isAbsolute_of_not_mem hslash]
  have hwalk := hplace
  rw [locate_eq_walk hplace, steps_of_not_mem hslash hne, hstart] at hwalk
  obtain ⟨found, hfound⟩ := walk_last_unfollowed hwalk
  refine ⟨found, ?_, walk_last_dir hfound⟩
  rw [locate_eq_walk hplace, steps_of_not_mem hslash hne, hstart]
  exact hfound

/-- The root leads to the top directory. -/
theorem resolve_root (h : tree.resolve dir true Path.root = .ok (id, node)) : id = 0 := by
  obtain ⟨place, hplace, hid, -⟩ := resolve_ok h
  rw [locate_eq_walk hplace] at hplace
  obtain ⟨left, hleft⟩ := approach_of_walk hplace hid
  cases approach_here 1 hleft
  rfl

/-- The path of a file that is no directory ends in a name. -/
theorem exists_name_of_file (hslash : Byte.slash ∈ path)
    (h : tree.resolve dir true path = .ok (id, node)) (hfile : node.isDirectory = false) :
    ∃ before name, path = before ++ Byte.slash :: name ∧ Byte.slash ∉ name ∧
      Path.isVoid name = false := by
  obtain ⟨rest, tail, hsplit, htail⟩ :=
    List.eq_append_cons_of_mem (List.mem_reverse.mpr hslash)
  have hpath : path = tail.reverse ++ Byte.slash :: rest.reverse := by
    rw [← path.reverse_reverse, hsplit]
    simp
  refine ⟨tail.reverse, rest.reverse, hpath, by simpa using htail, ?_⟩
  by_contra hvoid
  obtain ⟨place, hplace, hid, hnode⟩ := resolve_ok h
  rw [locate_eq_walk hplace] at hplace
  have hdirectory : node.isDirectory = true := by
    simp only [Path.isVoid, Bool.not_eq_false, Bool.or_eq_true, beq_iff_eq, List.isEmpty_iff] at hvoid
    rcases hvoid with hempty | hhere
    · rw [hpath, hempty, steps_append_slash] at hplace
      exact isDirectory_of_here hplace hid hnode
    · rw [hpath, hhere, steps_append (by decide) (by decide)] at hplace
      exact isDirectory_of_here hplace hid hnode
  rw [hfile] at hdirectory
  cases hdirectory

end FileTree

end ScriptExec.Host
