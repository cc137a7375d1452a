-- SUMMARY: Which file is executed by a launch that goes to its program's directory first.
import Mathlib
import ScriptExec.Proofs.Executor.Spawning
import ScriptExec.Proofs.Host.ContainingDir
import ScriptExec.Proofs.SearchPath

/-!
# Relocated launches

A launch that changes directory finds its program in one directory and has it executed from another one.
An absolute path means the same in both; a relative path is followed once more, from its own directory,
and a bare name is looked up in the search path of the process (`relocated_program_iff`).
-/

namespace ScriptExec.Executor

open Host Launch

/-- What is handed over from one directory is executed, from another one, as the file it means in the first,
and the other directory is the one that holds that file. Directories are left out: nothing executes them,
and a path such as `x/..` does not name one where it is held. -/
structure Relocated (before after : System) (plan : SpawnPlan) : Prop where
  file : after.executes plan = before.fileAt plan.program
  dir : ∀ id node, before.tree.resolve before.cwd true plan.program = .ok (id, node) →
    node.isDirectory = false →
      ∃ place, before.tree.locate before.cwd false plan.program = .ok place ∧ place.dir = after.cwd

variable {executor : Executor} {req : Request} {w w₁ : World} {l : InFlight Child}
variable {program : Path} {before after : System}

theorem changeDir_ok {path : Path} (h : before.changeDir path = .ok after) :
    ∃ node, before.tree.resolve before.cwd true path = .ok (after.cwd, node) ∧
      after = { before with cwd := after.cwd } := by
  unfold System.changeDir at h
  cases hfound : before.tree.resolve before.cwd true path with
  | error cause => simp [hfound, bind, Except.bind] at h
  | ok found =>
    obtain ⟨id, node⟩ := found
    simp only [hfound, bind, Except.bind] at h
    split at h
    · cases h
    · split at h
      · cases h
      · cases h
        exact ⟨node, rfl, rfl⟩

/-- A path with a slash is looked up in the directory to which its text leads. -/
theorem dir_of_slash (hmoved : before.changeDir (Path.containingDir program) = .ok after)
    (hslash : Byte.slash ∈ program) {id : NodeId} {node : Node}
    (hfile : before.tree.resolve before.cwd true program = .ok (id, node))
    (hnode : node.isDirectory = false) :
    ∃ place, before.tree.locate before.cwd false program = .ok place ∧ place.dir = after.cwd := by
  obtain ⟨_, hdir, -⟩ := changeDir_ok hmoved
  obtain ⟨base, name, rfl, hname, hvoid⟩ := FileTree.exists_name_of_file hslash hfile hnode
  obtain ⟨place, hplace, -, -⟩ := FileTree.resolve_ok hfile
  exact FileTree.locate_containingDir hname hvoid hplace hdir

/-- A bare name is taken from the top directory. -/
theorem dir_of_bare (hmoved : before.changeDir (Path.containingDir program) = .ok after)
    (hbare : Byte.slash ∉ program) {id : NodeId} {node : Node}
    (hfile : before.tree.resolve before.cwd true program = .ok (id, node))
    (hnode : node.isDirectory = false) :
    (∃ place, before.tree.locate before.cwd false program = .ok place ∧ place.dir = after.cwd) ↔
      before.cwd = 0 := by
  have hvoid := FileTree.not_isVoid_of_file hbare hfile hnode
  rw [Path.containingDir_of_not_mem hbare hvoid] at hmoved
  obtain ⟨_, hdir, -⟩ := changeDir_ok hmoved
  have hroot := FileTree.resolve_root hdir
  obtain ⟨found, hfound, -, -⟩ := FileTree.resolve_ok hfile
  obtain ⟨place, hplace, hhere⟩ := FileTree.locate_bare hbare (Path.ne_nil_of_not_isVoid hvoid) hfound
  rw [hroot]
  constructor
  · rintro ⟨place', hplace', hdir'⟩
    cases hplace.symm.trans hplace'
    exact hhere.symm.trans hdir'
  · intro htop
    exact ⟨place, hplace, hhere.trans htop⟩

/-! ## What is found -/

theorem pathOf_isAbsolute {tree : FileTree} {id : NodeId} {path : Path}
    (h : tree.pathOf id = .ok path) : path.isAbsolute = true := by
  unfold FileTree.pathOf at h
  split at h
  · cases h
    rfl
  · rename_i names hnames _
    cases h
    cases names with
    | nil => contradiction
    | cons name names => rfl
  · cases h

theorem lookup_cwd_isAbsolute {sys : System} {cwd : Path} (h : (executor.lookup sys).cwd = some cwd) :
    cwd.isAbsolute = true := by
  have hcurrent : ∀ dir, sys.currentDir.toOption = some dir → dir.isAbsolute = true := by
    intro dir hdir
    cases hread : sys.currentDir with
    | error cause => simp [hread, Except.toOption] at hdir
    | ok noted =>
      simp only [hread, Except.toOption, Option.some.injEq] at hdir
      exact hdir ▸ pathOf_isAbsolute hread
  unfold lookup at h
  split at h
  · cases hdir : sys.currentDir.toOption with
    | none =>
      simp only [hdir, Option.getD_none, Option.some.injEq] at h
      exact h ▸ rfl
    | some dir =>
      simp only [hdir, Option.getD_some, Option.some.injEq] at h
      exact h ▸ hcurrent dir hdir
  · exact hcurrent cwd h

/-! ## Relocation -/

theorem slash_mem_of_isAbsolute {path : Path} (habs : path.isAbsolute = true) : Byte.slash ∈ path := by
  by_contra hslash
  rw [Path.isAbsolute_of_not_mem hslash] at habs
  cases habs

theorem relocated_of_isAbsolute {plan : SpawnPlan}
    (hmoved : before.changeDir (Path.containingDir plan.program) = .ok after)
    (habs : Path.isAbsolute plan.program = true) : Relocated before after plan where
  file := by
    obtain ⟨_, -, hafter⟩ := changeDir_ok hmoved
    obtain ⟨cwd, rfl⟩ : ∃ cwd, after = { before with cwd } := ⟨_, hafter⟩
    rw [System.executes, Program.fileFor_of_slash (slash_mem_of_isAbsolute habs)]
    exact congrArg (fun x => x.toOption.map Prod.fst)
      (FileTree.resolve_of_isAbsolute habs cwd before.cwd)
  dir _ _ hfile hnode := dir_of_slash hmoved (slash_mem_of_isAbsolute habs) hfile hnode

theorem relocated_of_slash_iff {plan : SpawnPlan}
    (hmoved : before.changeDir (Path.containingDir plan.program) = .ok after)
    (hslash : Byte.slash ∈ plan.program) :
    Relocated before after plan ↔ after.fileAt plan.program = before.fileAt plan.program := by
  have hexecutes : after.executes plan = after.fileAt plan.program :=
    Program.fileFor_of_slash hslash
  rw [← hexecutes]
  constructor
  · exact Relocated.file
  · intro hfile
    exact ⟨hfile, fun _ _ => dir_of_slash hmoved hslash⟩

theorem relocated_of_bare_iff {plan : SpawnPlan} {id : NodeId} {node : Node}
    (hmoved : before.changeDir (Path.containingDir plan.program) = .ok after)
    (hbare : Byte.slash ∉ plan.program)
    (hfile : before.tree.resolve before.cwd true plan.program = .ok (id, node))
    (hnode : node.isDirectory = false) :
    Relocated before after plan ↔
      before.cwd = 0 ∧ after.executes plan = before.fileAt plan.program := by
  have hdir := dir_of_bare hmoved hbare hfile hnode
  constructor
  · intro h
    exact ⟨hdir.mp (h.dir id node hfile hnode), h.file⟩
  · rintro ⟨htop, hsame⟩
    exact ⟨hsame, fun _ _ _ _ => hdir.mpr htop⟩

/-- A plan is relocated if its program is absolute, or leads to one file from both directories, or is a
bare name in the top directory that is found there again. -/
theorem relocated_iff {plan : SpawnPlan}
    (hmoved : before.changeDir (Path.containingDir plan.program) = .ok after)
    (hfound : Byte.slash ∉ plan.program →
      ∃ id node, before.tree.resolve before.cwd true plan.program = .ok (id, node) ∧
        node.isDirectory = false) :
    Relocated before after plan ↔
      Path.isAbsolute plan.program = true ∨
      Path.isAbsolute plan.program = false ∧ Byte.slash ∈ plan.program ∧
        after.fileAt plan.program = before.fileAt plan.program ∨
      Byte.slash ∉ plan.program ∧ before.cwd = 0 ∧
        after.executes plan = before.fileAt plan.program := by
  by_cases hslash : Byte.slash ∈ plan.program
  · by_cases habs : Path.isAbsolute plan.program = true
    · have hrelocated := relocated_of_isAbsolute hmoved habs
      exact ⟨fun _ => .inl habs, fun _ => hrelocated⟩
    · rw [relocated_of_slash_iff hmoved hslash]
      simp [hslash, habs]
  · obtain ⟨id, node, hfile, hnode⟩ := hfound hslash
    rw [relocated_of_bare_iff hmoved hslash hfile hnode]
    simp [hslash, Path.isAbsolute_of_not_mem hslash]

/-- What is found in absolute entries is an absolute path. -/
theorem find_isAbsolute {name : String} (h : (executor.find name w).1 = some program)
    (hentries : ∀ entries, (executor.lookup w.sys).entries = some entries →
      ∀ entry ∈ Lookup.split entries,
        (Lookup.expandHome (executor.lookup w.sys).home entry).isAbsolute = true) :
    program.isAbsolute = true := by
  obtain ⟨hmem, -⟩ := find_some h
  exact Lookup.candidates_isAbsolute (fun _ => lookup_cwd_isAbsolute) hentries hmem

/-- A launch that changes directory has its program executed as the file it was found as, and in that
file's directory, if and only if the program is an absolute path, or leads to that file from its own
directory once more, or is a bare name that was found in the top directory and is found there again by
the system. An absolute command is an absolute path, and so is what is found in absolute entries. -/
theorem relocated_program_iff (hmove : req.changeDir = true)
    (hsteps : Steps executor.collaborators executor.launcher req {} w l w₁)
    (hstage : l.stage = .spawning program) :
    let plan := SpawnPlan.ofArgv program req.args.toArgv
    (if Path.isAbsolute (utf8 req.cmd) then program = utf8 req.cmd
      else (executor.find req.cmd w).1 = some program) ∧
    w.sys.changeDir (Path.containingDir program) = .ok w₁.sys ∧
    (Relocated w.sys w₁.sys plan ↔
      program.isAbsolute = true ∨
      program.isAbsolute = false ∧ Byte.slash ∈ program ∧
        w₁.sys.fileAt program = w.sys.fileAt program ∨
      Byte.slash ∉ program ∧ w.sys.cwd = 0 ∧ w₁.sys.executes plan = w.sys.fileAt program) ∧
    (Path.isAbsolute (utf8 req.cmd) = true ∨
      (∀ entries, (executor.lookup w.sys).entries = some entries → ∀ entry ∈ Lookup.split entries,
        (Lookup.expandHome (executor.lookup w.sys).home entry).isAbsolute = true) →
      program.isAbsolute = true) := by
  intro plan
  obtain ⟨hlocates, hstands⟩ := prepared hsteps hstage
  have hplan : plan.program = program := ofArgv_program _
  rw [Locates, if_pos hmove] at hlocates
  rw [StandsAt, if_pos hmove] at hstands
  refine ⟨hlocates, hstands, ?_, ?_⟩
  · have hiff := @relocated_iff w.sys w₁.sys plan
    rw [hplan] at hiff
    refine hiff hstands ?_
    intro hslash
    split at hlocates
    · rename_i hcmd
      rw [← hlocates, Path.isAbsolute_of_not_mem hslash] at hcmd
      cases hcmd
    · exact (find_some hlocates).2
  · intro hentries
    split at hlocates
    · rename_i hcmd
      rw [hlocates]
      exact hcmd
    · rename_i hcmd
      rcases hentries with hcmd' | hentries
      · exact absurd hcmd' hcmd
      · exact find_isAbsolute hlocates hentries

theorem relocated_program_of_absolute_entry :
    let executor : Executor := { launcher := { searchPath := some "/w/bin" } }
    let req : Request := { cmd := "tool", changeDir := true }
    ∃ l w₁, Steps executor.collaborators executor.launcher req {} toolWorld l w₁ ∧
      l.stage = .spawning (utf8 "/w/bin/tool") ∧
      Relocated toolWorld.sys w₁.sys (.ofArgv (utf8 "/w/bin/tool") req.args.toArgv) := by
  intro executor req
  have hsteps : Steps executor.collaborators executor.launcher req {} toolWorld _ _ :=
    advance_steps isSpawning {} toolWorld
  have hstage : (advance executor.collaborators executor.launcher req isSpawning {} toolWorld).1.stage =
      .spawning (utf8 "/w/bin/tool") := by cbv
  have habs : Path.isAbsolute (utf8 "/w/bin/tool") = true := by decide
  exact ⟨_, _, hsteps, hstage,
    (relocated_program_iff rfl hsteps hstage).2.2.1.mpr (.inl habs)⟩

/-- What is found in a relative entry is looked for again below its own directory. -/
theorem not_relocated_of_relative_entry :
    let executor : Executor := { launcher := { searchPath := some "bin" } }
    let req : Request := { cmd := "tool", changeDir := true }
    ∃ l w₁, Steps executor.collaborators executor.launcher req {} toolWorld l w₁ ∧
      l.stage = .spawning (utf8 "bin/tool") ∧ toolWorld.sys.fileAt (utf8 "bin/tool") = some 3 ∧
      w₁.sys.executes (.ofArgv (utf8 "bin/tool") req.args.toArgv) = none ∧
      ¬Relocated toolWorld.sys w₁.sys (.ofArgv (utf8 "bin/tool") req.args.toArgv) := by
  intro executor req
  have hsteps : Steps executor.collaborators executor.launcher req {} toolWorld _ _ :=
    advance_steps isSpawning {} toolWorld
  have hstage : (advance executor.collaborators executor.launcher req isSpawning {} toolWorld).1.stage =
      .spawning (utf8 "bin/tool") := by cbv
  obtain ⟨-, hstands⟩ := prepared hsteps hstage
  have hmoved : toolWorld.sys.changeDir (Path.containingDir (utf8 "bin/tool")) =
      .ok { toolWorld.sys with cwd := 2 } := by cbv
  rw [StandsAt, if_pos rfl, hmoved] at hstands
  have hfile : toolWorld.sys.fileAt (utf8 "bin/tool") = some 3 := by cbv
  have hnone : System.executes { toolWorld.sys with cwd := 2 }
      (.ofArgv (utf8 "bin/tool") req.args.toArgv) = none := by cbv
  refine ⟨_, _, hsteps, hstage, hfile, ?_, ?_⟩
  · rw [← Except.ok.inj hstands]
    exact hnone
  · intro hrelocated
    have hsame := hrelocated.file
    rw [← Except.ok.inj hstands, hnone, ofArgv_program, hfile] at hsame
    cases hsame

end ScriptExec.Executor
