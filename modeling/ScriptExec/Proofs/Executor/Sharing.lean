-- SUMMARY: Executors with the same guard share it, so their launches exclude each other.
import ScriptExec.Proofs.Concurrent.Pair
import ScriptExec.Proofs.Executor.Calls

/-!
# Executors that share a guard

Executors share a guard if they have the same number for its slot: those that were made from each other,
and all that were made from the shared one of the process. No call of an executor adds or removes a
slot, and only the guard's own calls write into one (`Executor.keepsSlots`). So what is said of launches
that share a guard (`Launch.Governed`) holds of theirs at every moment (`Executor.tasks_governed`), and a
pair of launches leaves the guard idle (`Executor.pair_idle`).
-/

namespace ScriptExec

namespace Executor

variable (executor : Executor)

theorem keepsSlots : executor.collaborators.KeepsAside World.slots where
  keeps := {
    log := fun _ _ => rfl
    becomeUser := fun user w => by
      simp only [collaborators, becomeUser]
      split <;> simp [World.record]
    find := fun name w => by
      simp only [collaborators, find]
      split <;> rfl
    spawn := fun plan w => by
      simp only [collaborators]
      split <;> rfl
    outputs := fun _ _ _ => rfl
    warn := fun text w => World.tell_slots w _ _ _ text }
  change path w := by
    simp only [collaborators, directories]
    split <;> rfl
  error text w := World.tell_slots w _ _ _ text

/-- The guard is there if its slot is. -/
theorem sharesGuard : Launch.SharesGuard (fun w => w.slot executor.guard)
    (fun w => executor.guard < w.slots.length) executor.collaborators where
  slot_eq := rfl
  keeps := executor.keepsSlots.map fun slots =>
    ((slots[executor.guard]?).getD .idle, executor.guard < slots.length)
  written slot w hlive := by
    refine ⟨?_, by simpa [collaborators, World.setSlot] using hlive⟩
    simp [collaborators, World.slot, World.setSlot, hlive]

/-- Launches of executors with one guard have it in turn, and leave it idle. -/
theorem tasks_governed {guard : Nat} {launches : List (Executor × Request)}
    (hguard : ∀ launch ∈ launches, launch.1.guard = guard) {w : World}
    (hlive : guard < w.slots.length) (hidle : w.slot guard = .idle) (order : List Nat) :
    let tasks := launches.map fun launch => launch.1.task launch.2
    let m := ({ tasks, world := w } : Launch.Moment World Host.Child).turns order
    ∃ holder, Launch.Governed (fun w => w.slot guard) (fun w => guard < w.slots.length) holder m ∧
      (m.IsFinished → m.world.slot guard = .idle) := by
  intro tasks m
  have hshares : ∀ t ∈ tasks, Launch.SharesGuard (fun w => w.slot guard)
      (fun w => guard < w.slots.length) t.collaborators := by
    intro t ht
    obtain ⟨launch, hlaunch, rfl⟩ := List.mem_map.mp ht
    rw [← hguard launch hlaunch]
    exact launch.1.sharesGuard
  have hfresh : ∀ t ∈ tasks, t.inFlight = {} := by
    intro t ht
    obtain ⟨launch, hlaunch, rfl⟩ := List.mem_map.mp ht
    rfl
  obtain ⟨holder, hgoverned⟩ := (Launch.governed_start hshares hfresh hlive hidle).turns order
  exact ⟨holder, hgoverned, hgoverned.idle_of_isFinished⟩

/-- Two launches of which one runs while the other waits leave the guard idle. -/
theorem pair_idle (first second : Request) {w : World} (hlive : executor.guard < w.slots.length)
    (hidle : w.slot executor.guard = .idle) :
    (Launch.runPair (executor.task first) (executor.task second) w).2.2.slot executor.guard = .idle := by
  have hshares := executor.sharesGuard
  exact @Launch.runPair_idle _ _ (executor.task first) (executor.task second) w rfl rfl _ _
    hshares hshares hlive hidle

end Executor

end ScriptExec
