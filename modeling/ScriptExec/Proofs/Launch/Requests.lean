-- SUMMARY: Requests that a launch cannot tell apart.
import ScriptExec.Executor

/-!
# Requests for the same launch

Of the arguments of a request, a launch looks at the argument vector and at whether there are named ones. So
requests that have these in common, and all the rest, lead to the same launch, step by step
(`Launch.step_congr`) and to its end (`Executor.launchBlocking_congr`).
-/

namespace ScriptExec

/-- Two requests differ at most in the holes among their arguments and in the keys of the named ones. -/
structure Request.SameLaunch (req req' : Request) : Prop where
  cmd : req.cmd = req'.cmd
  changeDir : req.changeDir = req'.changeDir
  user : req.user = req'.user
  argv : req.args.toArgv = req'.args.toArgv
  named : req.args.named.isEmpty = req'.args.named.isEmpty

/-- Slots with the same arguments in the same order make the same argument vector, however many holes come
after them. -/
theorem ArgList.filterMap_congr {slots slots' : List (Option Bytes)}
    (h : ∀ i : Nat, (slots[i]?).join = (slots'[i]?).join) : slots.filterMap id = slots'.filterMap id := by
  induction slots generalizing slots' with
  | nil =>
    refine (List.filterMap_eq_nil_iff.mpr fun slot hslot => ?_).symm
    obtain ⟨i, hi⟩ := List.getElem?_of_mem hslot
    have hnone := h i
    rw [hi] at hnone
    exact hnone.symm
  | cons slot slots ih =>
    cases slots' with
    | nil =>
      refine List.filterMap_eq_nil_iff.mpr fun slot' hslot => ?_
      obtain ⟨i, hi⟩ := List.getElem?_of_mem hslot
      have hnone := h i
      rw [hi] at hnone
      exact hnone
    | cons slot' slots' =>
      have hfirst : slot = slot' := h 0
      have hrest := ih fun i => h (i + 1)
      rw [hfirst, List.filterMap_cons, List.filterMap_cons, hrest]

namespace Launch

variable {σ κ : Type} {c : Collaborators σ κ} {launcher : Launcher} {req req' : Request}

theorem validate_congr (hcmd : req.cmd = req'.cmd) : req.validate = req'.validate := by
  unfold Request.validate
  rw [hcmd]

theorem switchUser_congr (huser : req.user = req'.user) (w : σ) :
    switchUser c launcher req w = switchUser c launcher req' w := by
  unfold switchUser
  rw [huser]

theorem locate_congr (hcmd : req.cmd = req'.cmd) (hchange : req.changeDir = req'.changeDir) (w : σ) :
    locate c launcher req w = locate c launcher req' w := by
  unfold locate
  rw [hcmd, hchange]

theorem step_congr (h : req.SameLaunch req') (l : InFlight κ) (w : σ) :
    step c launcher req l w = step c launcher req' l w := by
  unfold step
  rw [validate_congr h.cmd, switchUser_congr h.user, locate_congr h.cmd h.changeDir, h.changeDir, h.named, h.argv,
    h.cmd]

theorem advance_congr (h : req.SameLaunch req') (stop : Stage κ → Bool) (l : InFlight κ) (w : σ) :
    advance c launcher req stop l w = advance c launcher req' stop l w := by
  fun_induction advance c launcher req stop l w with
  | case1 l w hstop =>
    rw [advance, if_pos hstop]
  | case2 l w hstop hgoing ih =>
    rw [ih, step_congr h]
    conv => rhs; rw [advance, if_neg hstop, dif_pos hgoing]
  | case3 l w hstop hdone =>
    rw [advance, if_neg hstop, dif_neg hdone]

/-- Requests for the same launch have the same outcome and leave the same world. -/
theorem run_congr (h : req.SameLaunch req') (w : σ) :
    run c launcher req w = run c launcher req' w := by
  simp only [run, complete, advance_congr h]

end Launch

namespace Executor

variable {executor : Executor} {req req' : Request}

theorem launchBlocking_congr (h : req.SameLaunch req') (runtime : Runtime) (w : World) :
    executor.launchBlocking runtime req w = executor.launchBlocking runtime req' w := by
  have hlaunch : executor.launch req = executor.launch req' :=
    funext fun w => Launch.run_congr h w
  unfold launchBlocking
  rw [hlaunch, h.cmd]

end Executor

end ScriptExec
