-- SUMMARY: What launches of an executor leave: slots, files and directory as they were, but for what a child did.
import ScriptExec.Proofs.Executor.OpenFiles
import ScriptExec.Proofs.Executor.Relocation
import ScriptExec.Proofs.Executor.Sharing
import ScriptExec.Proofs.Launch.Offspring

/-!
# Remains of launches

However a launch ends, every slot is what it was (`launchBlocking_slots`), and the process is in the directory
it was in if the path of that still leads there (`launchBlocking_cwd`). The files are as they were, or as a child left
them that was created when they still were (`launchBlocking_tree`).
-/

namespace ScriptExec

namespace Host

namespace System

variable {sys sys' : System} {path : Path} {cwd : NodeId}

/-- An absolute path leads to a directory from everywhere. -/
theorem changeDir_of_tree_eq (habs : path.isAbsolute = true) (htree : sys'.tree = sys.tree)
    (h : sys.changeDir path = .ok { sys with cwd }) : sys'.changeDir path = .ok { sys' with cwd } := by
  have hresolve : sys'.tree.resolve sys'.cwd true path = sys.tree.resolve sys.cwd true path := by
    rw [htree]
    exact FileTree.resolve_of_isAbsolute habs _ _
  unfold changeDir at h ⊢
  rw [hresolve]
  obtain ⟨⟨id, node⟩, hfound, h⟩ := FileTree.bind_eq_ok h
  rw [hfound]
  dsimp only [bind, Except.bind] at h ⊢
  split at h
  · cases h
  · split at h
    · cases h
    · rename_i hdirectory hentry
      rw [if_neg hdirectory, if_neg hentry]
      obtain rfl : id = cwd := congrArg System.cwd (Except.ok.inj h)
      rfl

/-- The host as it is seen from the top directory. -/
def fromRoot (sys : System) : System :=
  { sys with cwd := 0 }

theorem eq_of_fromRoot_eq (h : sys'.fromRoot = sys.fromRoot) : sys' = { sys with cwd := sys'.cwd } := by
  obtain ⟨⟩ := sys
  obtain ⟨⟩ := sys'
  cases h
  rfl

theorem tree_eq_of_fromRoot_eq (h : sys'.fromRoot = sys.fromRoot) : sys'.tree = sys.tree := by
  rw [eq_of_fromRoot_eq h]

end System

/-- What a child does to the files does not depend on where the process is that created it. -/
theorem runChild_tree_congr {sys sys' : System} (h : sys'.fromRoot = sys.fromRoot) (child : Child) :
    (Shell.runChild sys' child).2.tree = (Shell.runChild sys child).2.tree := by
  rw [System.eq_of_fromRoot_eq h]
  rfl

end Host

namespace Executor

open Host

theorem eq_of_set_eq {slots slots' : List Slot} {guard : Nat} (hothers : slots'.set guard .idle = slots.set guard .idle)
    (hguard : (slots'[guard]?).getD .idle = (slots[guard]?).getD .idle) : slots' = slots := by
  have hlength : slots'.length = slots.length := by simpa using congrArg List.length hothers
  refine List.ext_getElem hlength ?_
  intro i hi hi'
  by_cases hguard' : guard = i
  · subst hguard'
    simpa [hi, hi'] using hguard
  · have hsame := congrArg (fun slots => slots[i]?) hothers
    simpa [hguard', hi, hi'] using hsame

variable (executor : Executor) (w : World) (runtime : Runtime) (req : Request)

/-- Only children do more to the host than to change the directory. -/
theorem keepsAlone : executor.collaborators.KeepsAlone fun w => w.sys.fromRoot where
  toKeepsEarly := executor.keepsEarly_of_sys System.fromRoot
  change path w := by
    simp only [collaborators, directories]
    split
    · rename_i hchange
      obtain ⟨-, -, hafter⟩ := changeDir_ok hchange
      rw [hafter]
      rfl
    · rfl
  setSlot _ _ := rfl
  notSpawn plan cause w w' h := by
    simp only [collaborators] at h
    split at h <;> cases h
    rfl
  error text w := congrArg System.fromRoot (World.tell_sys w _ _ _ text)
  warn text w := congrArg System.fromRoot (World.tell_sys w _ _ _ text)

/-! ## Launches -/

/-- The files are as a child left them that was created by a launch from there; the process may have taken
descriptors before that, and written to its log. -/
inductive LeftByChild (tree : FileTree) : Prop
  | intro {reserved records l w₁ program child sys}
      (hsteps : Launch.Steps executor.collaborators executor.launcher req {}
        { w with sys := { w.sys with reserved }, records } l w₁)
      (hstage : l.stage = .spawning program)
      (hspawn : w₁.sys.spawn (.ofArgv program req.args.toArgv) = .ok (child, sys))
      (htree : tree = (Shell.runChild sys child).2.tree) : LeftByChild tree

theorem launch_tree : (executor.launch req w).2.sys.tree = w.sys.tree ∨
    LeftByChild executor w req (executor.launch req w).2.sys.tree := by
  have hend := @Launch.run_offspring _ _ _ _ executor.launcher req _ executor.keepsAlone w
  rcases hend with hsame | ⟨child, _, w₃, ⟨hsteps, hstage, hspawn⟩, hwaits, hafter⟩
  · exact .inl (System.tree_eq_of_fromRoot_eq hsame)
  · right
    have hrun : (executor.collaborators.outputs executor.launcher.multiplexer.chunkSize child w₃).2.sys.tree =
        (Shell.runChild w₃.sys child).2.tree := rfl
    simp only [collaborators] at hspawn
    split at hspawn <;> cases hspawn
    rename_i sys hspawn
    refine .intro hsteps hstage hspawn ?_
    rw [launch, System.tree_eq_of_fromRoot_eq hafter, hrun, runChild_tree_congr hwaits]

theorem launch_slots : (executor.launch req w).2.slots = w.slots := by
  -- the guard's own slot is put back, all others are never written
  have hothers : (executor.launch req w).2.slots.set executor.guard .idle = w.slots.set executor.guard .idle :=
    Launch.run_keeps (executor.keepsSlots.map fun slots => slots.set executor.guard .idle)
      (fun _ _ => List.set_set ..) w
  exact eq_of_set_eq hothers (executor.launch_slot w req)

theorem launch_cwd_of_end {dir : Path} (hread : w.sys.currentDir = .ok dir)
    (hback : (executor.launch req w).2.sys.changeDir dir =
      .ok { (executor.launch req w).2.sys with cwd := w.sys.cwd }) :
    (executor.launch req w).2.sys.cwd = w.sys.cwd := by
  refine executor.launch_cwd w req hread ?_
  intro w₁ outcome hreturn
  have hend := Launch.run_keeps_of_returns executor.keepsAlone hreturn
  have htree : w₁.sys.tree = (executor.launch req w).2.sys.tree :=
    (System.tree_eq_of_fromRoot_eq hend).symm
  exact System.changeDir_of_tree_eq (pathOf_isAbsolute hread) htree hback

/-! ## Launches that are waited for -/

/-- How a launch is waited for: without more, beside a runtime that takes descriptors meanwhile, or not at all. -/
inductive Waited : Launch.Outcome × World → Prop
  | plain : Waited (executor.launch req w)
  | beside {outcome after} (h : executor.launch req
      { w with sys := { w.sys with reserved := w.sys.reserved + runtimeDescriptors } } = (outcome, after)) :
      Waited (outcome, { after with sys := { after.sys with reserved := w.sys.reserved } })
  | refused : Waited (.error (.spawn req.cmd .tooManyFiles), w)

theorem launchBlocking_waited : Waited executor w req (executor.launchBlocking runtime req w) := by
  unfold launchBlocking
  split
  · split
    · exact .beside rfl
    · exact .refused
  · exact .plain

/-- No launch leaves a slot in another state. -/
theorem launchBlocking_slots : (executor.launchBlocking runtime req w).2.slots = w.slots := by
  have hwaited := executor.launchBlocking_waited w runtime req
  generalize executor.launchBlocking runtime req w = ended at hwaited ⊢
  cases hwaited with
  | plain => exact executor.launch_slots w req
  | beside h => exact (congrArg (fun x => x.2.slots) h).symm.trans (executor.launch_slots _ req)
  | refused => rfl

/-- The files after a launch are what they were, or what a child made of them that could be created then. -/
theorem launchBlocking_tree : (executor.launchBlocking runtime req w).2.sys.tree = w.sys.tree ∨
    LeftByChild executor w req (executor.launchBlocking runtime req w).2.sys.tree := by
  have hwaited := executor.launchBlocking_waited w runtime req
  generalize executor.launchBlocking runtime req w = ended at hwaited ⊢
  cases hwaited with
  | plain => exact executor.launch_tree w req
  | beside h =>
    have htree := executor.launch_tree
      { w with sys := { w.sys with reserved := w.sys.reserved + runtimeDescriptors } } req
    rw [h] at htree
    refine htree.imp_right ?_
    rintro ⟨hsteps, hstage, hspawn, hleft⟩
    exact .intro hsteps hstage hspawn hleft
  | refused => exact .inl rfl

/-- A launch leaves the process in its directory, if the path of that leads there at the end. -/
theorem launchBlocking_cwd {dir : Path} (hread : w.sys.currentDir = .ok dir)
    (hback : (executor.launchBlocking runtime req w).2.sys.changeDir dir =
      .ok { (executor.launchBlocking runtime req w).2.sys with cwd := w.sys.cwd }) :
    (executor.launchBlocking runtime req w).2.sys.cwd = w.sys.cwd := by
  have hwaited := executor.launchBlocking_waited w runtime req
  generalize executor.launchBlocking runtime req w = ended at hwaited hback ⊢
  cases hwaited with
  | plain => exact executor.launch_cwd_of_end w req hread hback
  | @beside outcome after h =>
    have hcwd := executor.launch_cwd_of_end
      { w with sys := { w.sys with reserved := w.sys.reserved + runtimeDescriptors } } req hread
    rw [h] at hcwd
    have habs := pathOf_isAbsolute hread
    exact hcwd (@System.changeDir_of_tree_eq { after.sys with reserved := w.sys.reserved } after.sys _ _
      habs rfl hback)
  | refused => rfl

end Executor

end ScriptExec
