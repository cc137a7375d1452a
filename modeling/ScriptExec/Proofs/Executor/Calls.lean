-- SUMMARY: What the calls of an executor leave as it is: the host, the slots, and the working directory.
import ScriptExec.Executor
import ScriptExec.Proofs.Host.Choice
import ScriptExec.Proofs.Launch.Cleanup

/-!
# Calls of executors

Lookups, reports and records leave the host alone; only a change of directory changes the working
directory, and only the guard's own calls change its slot. So launches of an executor leave behind what
`Launch.launch_cleans_up` says.
-/

namespace ScriptExec

namespace World

variable (w : World) (sink : Sink) (guard : Nat) (kind : Report.Kind) (text : String)

@[simp]
theorem record_sys (record : Log.Record) : (w.record record).sys = w.sys := rfl

@[simp]
theorem record_slot (record : Log.Record) : (w.record record).slot guard = w.slot guard := rfl

@[simp]
theorem setSlot_sys (slot : Slot) : (w.setSlot guard slot).sys = w.sys := rfl

@[simp]
theorem tell_sys : (w.tell sink guard kind text).sys = w.sys := by
  cases sink <;> cases kind <;> rfl

@[simp]
theorem tell_slot (guard' : Nat) : (w.tell sink guard kind text).slot guard' = w.slot guard' := by
  cases sink <;> cases kind <;> rfl

@[simp]
theorem tell_slots : (w.tell sink guard kind text).slots = w.slots := by
  cases sink <;> cases kind <;> rfl

@[simp]
theorem tell_identity : (w.tell sink guard kind text).identity = w.identity := by
  cases sink <;> cases kind <;> rfl

theorem setSlot_idle_slot : (w.setSlot guard .idle).slot guard = .idle := by
  simp only [slot, setSlot, List.getElem?_set]
  split
  · split <;> rfl
  · contradiction

end World

namespace Executor

variable (executor : Executor) (w : World)

@[simp]
theorem find_sys (name : String) : (executor.find name w).2.sys = w.sys := by
  unfold find
  dsimp only
  split <;> rfl

@[simp]
theorem find_slot (name : String) (guard : Nat) : (executor.find name w).2.slot guard = w.slot guard := by
  unfold find
  dsimp only
  split <;> rfl

@[simp]
theorem becomeUser_sys (user : String) : (executor.becomeUser user w).2.sys = w.sys := by
  unfold becomeUser
  dsimp only
  split <;> simp

@[simp]
theorem becomeUser_slot (user : String) (guard : Nat) :
    (executor.becomeUser user w).2.slot guard = w.slot guard := by
  unfold becomeUser
  dsimp only
  split <;> simp

/-- What a call before the child does not change, as far as the host goes. -/
theorem keepsEarly_of_sys {α : Type} (view : Host.System → α) :
    executor.collaborators.KeepsEarly fun w => view w.sys where
  log _ _ := rfl
  becomeUser user w := congrArg view (executor.becomeUser_sys w user)
  find name w := congrArg view (executor.find_sys w name)

theorem spawn_cwd (plan : SpawnPlan) :
    (executor.collaborators.spawn plan w).2.sys.cwd = w.sys.cwd := by
  simp only [collaborators]
  split
  · rename_i hspawn
    rw [(Host.System.spawn_ok hspawn).2]
  · rfl

theorem spawn_slot (plan : SpawnPlan) (guard : Nat) :
    (executor.collaborators.spawn plan w).2.slot guard = w.slot guard := by
  simp only [collaborators]
  split <;> rfl

theorem keepsSlot : Launch.KeepsSlot executor.collaborators where
  keeps := {
    log := fun _ _ => rfl
    becomeUser := fun user w => executor.becomeUser_slot w user _
    find := fun name w => executor.find_slot w name _
    spawn := fun plan w => executor.spawn_slot w plan _
    outputs := fun _ _ _ => rfl
    warn := fun text w => World.tell_slot w _ _ _ text _ }
  change path w := by
    simp only [collaborators, directories]
    split <;> rfl
  error text w := World.tell_slot w _ _ _ text _
  setSlot_idle w := World.setSlot_idle_slot w _

theorem keepsDir : Launch.KeepsDir executor.collaborators fun w => w.sys.cwd where
  keeps := {
    toKeepsEarly := executor.keepsEarly_of_sys Host.System.cwd
    spawn := fun plan w => executor.spawn_cwd w plan
    outputs := fun _ _ _ => rfl
    warn := fun text w => congrArg Host.System.cwd (World.tell_sys w _ _ _ text) }
  setSlot _ _ := rfl
  error text w := congrArg Host.System.cwd (World.tell_sys w _ _ _ text)
  failed path w cause h := by
    simp only [collaborators, directories] at h ⊢
    split at h
    · cases h
    · rfl
  current := executor.keepsEarly_of_sys Host.System.currentDir

/-- A launch leaves the guard of its executor as it was, whoever holds it. -/
theorem launch_slot (req : Request) : (executor.launch req w).2.slot executor.guard =
    w.slot executor.guard :=
  Launch.run_slot executor.keepsSlot w

/-- A launch leaves the process in the directory it was in, if that can be entered by its path. -/
theorem launch_cwd (req : Request) {dir : Path} (hread : w.sys.currentDir = .ok dir)
    (hback : ∀ w₁ outcome, Launch.Returns executor.collaborators executor.launcher req w w₁ outcome →
      w₁.sys.changeDir dir = .ok { w₁.sys with cwd := w.sys.cwd }) :
    (executor.launch req w).2.sys.cwd = w.sys.cwd := by
  refine Launch.run_dir executor.keepsDir hread ?_
  intro w₁ outcome hreturn
  simp only [collaborators, directories, hback w₁ outcome hreturn]
  exact ⟨trivial, trivial⟩

end Executor

end ScriptExec
