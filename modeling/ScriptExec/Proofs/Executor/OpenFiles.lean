-- SUMMARY: Launches leave the open files of the process alone.
import ScriptExec.Proofs.Executor.Calls
import ScriptExec.Proofs.Host.Descriptors
import ScriptExec.Proofs.Launch.Holding

namespace ScriptExec.Executor

open Host

variable (executor : Executor) (w : World)

theorem spawn_openFiles (plan : SpawnPlan) :
    (executor.collaborators.spawn plan w).2.sys.openFiles = w.sys.openFiles := by
  simp only [collaborators]
  split
  · rename_i hspawn
    rw [(System.spawn_ok hspawn).2]
    rfl
  · rfl

theorem change_openFiles (path : Path) :
    (executor.collaborators.change path w).2.sys.openFiles = w.sys.openFiles := by
  simp only [collaborators, directories]
  split
  · rename_i hchange
    exact System.changeDir_openFiles hchange
  · rfl

theorem keepsOpenFiles : executor.collaborators.KeepsAside fun w => w.sys.openFiles where
  keeps := {
    toKeepsEarly := executor.keepsEarly_of_sys System.openFiles
    spawn := fun plan w => executor.spawn_openFiles w plan
    outputs := fun _ _ _ => rfl
    warn := fun text w => congrArg System.openFiles (World.tell_sys w _ _ _ text) }
  change path w := executor.change_openFiles w path
  error text w := congrArg System.openFiles (World.tell_sys w _ _ _ text)

/-- A launch opens and closes no file of the process; its child has its own. -/
theorem launchBlocking_openFiles (runtime : Runtime) (req : Request) :
    (executor.launchBlocking runtime req w).2.sys.openFiles = w.sys.openFiles := by
  have hrun : ∀ w, (executor.launch req w).2.sys.openFiles = w.sys.openFiles :=
    fun w => Launch.run_keeps executor.keepsOpenFiles (fun _ _ => rfl) w
  unfold launchBlocking
  split
  · split
    · exact hrun _
    · rfl
  · exact hrun w

end ScriptExec.Executor
