-- SUMMARY: Of a launch's arguments the file that is executed does not depend; named ones show in the reports alone.
import ScriptExec.Proofs.Executor.Calls
import ScriptExec.Proofs.Executor.Spawning
import ScriptExec.Proofs.Host.ContainingDir
import ScriptExec.Proofs.Launch.Arguments

/-!
# Arguments of an executor's launches

Which program a launch hands to the system, and on which host, follows from the command and the directory in which it
began (`ComesTo.congr`), and the file that is executed then is the same for all arguments (`ComesTo.executes`). A
warning that is given on the way is found among the reports or records at the end, and nowhere else: worlds that differ
in it go on side by side (`World.Alongside`).
-/

namespace ScriptExec

/-! ## Children -/

/-- A program of the system sees the argument vector of its plan. -/
theorem Host.System.program_of_utility {sys sys' : System} {plan : SpawnPlan} {child : Child}
    (h : sys.spawn plan = .ok (child, sys')) {id : NodeId} {mode : Nat} {utility : String}
    (hfile : sys.executes plan = some id) (hnode : sys.tree.node? id = some ⟨mode, .utility utility⟩) :
    child.program = ⟨utility, plan.argv⟩ := by
  obtain ⟨path, id', hfile', hpath, hprogram⟩ := executes_of_spawn h
  obtain rfl : id = id' := Option.some.inj (hfile.symm.trans hfile')
  rw [Program.ofPath, if_pos (fits_of_spawn h)] at hprogram
  unfold Program.follow at hprogram
  obtain ⟨content, hcontent, hprogram⟩ := FileTree.bind_eq_ok hprogram
  obtain ⟨⟨found, node⟩, hresolve, hcontent⟩ := FileTree.bind_eq_ok hcontent
  obtain ⟨-, -, -, hfound⟩ := FileTree.resolve_ok hresolve
  rw [fileAt, hresolve] at hpath
  obtain rfl : found = id := Option.some.inj hpath
  obtain rfl := Option.some.inj (hfound.symm.trans hnode)
  dsimp only at hcontent
  split at hcontent
  · cases hcontent
  · split at hcontent
    · cases hcontent
    · cases hcontent
      exact (Except.ok.inj hprogram).symm

/-! ## Worlds side by side -/

/-- Two worlds that have gone on in the same way, from `w₁` and from `v₁`. -/
structure World.Alongside (w₁ v₁ w v : World) : Prop where
  sys : w.sys = v.sys
  identity : w.identity = v.identity
  slots : w.slots = v.slots
  reports : ∃ more, w.reports = more ++ w₁.reports ∧ v.reports = more ++ v₁.reports
  records : ∃ more, w.records = more ++ w₁.records ∧ v.records = more ++ v₁.records

namespace World.Alongside

variable {w₁ v₁ w v : World}

theorem withSys (h : Alongside w₁ v₁ w v) (sys : Host.System) :
    Alongside w₁ v₁ { w with sys } { v with sys } :=
  ⟨rfl, h.identity, h.slots, h.reports, h.records⟩

theorem setSlot (h : Alongside w₁ v₁ w v) (guard : Nat) (slot : Slot) :
    Alongside w₁ v₁ (w.setSlot guard slot) (v.setSlot guard slot) :=
  ⟨h.sys, h.identity, congrArg (·.set guard slot) h.slots, h.reports, h.records⟩

theorem slot_eq (h : Alongside w₁ v₁ w v) (guard : Nat) : w.slot guard = v.slot guard := by
  rw [slot, slot, h.slots]

theorem record (h : Alongside w₁ v₁ w v) (record : Log.Record) :
    Alongside w₁ v₁ (w.record record) (v.record record) := by
  obtain ⟨more, hw, hv⟩ := h.records
  exact ⟨h.sys, h.identity, h.slots, h.reports, record :: more, congrArg (record :: ·) hw, congrArg (record :: ·) hv⟩

theorem note (h : Alongside w₁ v₁ w v) (guard : Nat) (kind : Report.Kind) (text : String) :
    Alongside w₁ v₁ (w.note guard kind text) (v.note guard kind text) := by
  obtain ⟨more, hw, hv⟩ := h.reports
  refine ⟨h.sys, h.identity, h.slots, ⟨⟨kind, text, (w.slot guard).isBusy⟩ :: more, ?_, ?_⟩, h.records⟩
  · exact congrArg (_ :: ·) hw
  · rw [h.slot_eq]
    exact congrArg (_ :: ·) hv

theorem tell (h : Alongside w₁ v₁ w v) (sink : Sink) (guard : Nat) (kind : Report.Kind) (text : String) :
    Alongside w₁ v₁ (w.tell sink guard kind text) (v.tell sink guard kind text) := by
  cases sink with
  | recorder => exact h.note guard kind text
  | log =>
    cases kind with
    | userRequest => exact h
    | _ => exact h.record _

end World.Alongside

namespace Executor

open Host Launch

variable {executor : Executor} {req req' : Request}

theorem warn_alongside (w₁ : World) (text : String) :
    World.Alongside w₁ (executor.warn text w₁) w₁ (executor.warn text w₁) :=
  ⟨(World.tell_sys ..).symm, (World.tell_identity ..).symm, (World.tell_slots ..).symm, ⟨[], rfl, rfl⟩, ⟨[], rfl, rfl⟩⟩

/-- No call of an executor depends on what was reported or recorded. -/
theorem agree_alongside (w₁ v₁ : World) :
    Collaborators.AgreeFully (World.Alongside w₁ v₁) executor.collaborators executor.collaborators where
  current h := congrArg System.currentDir h.sys
  change path w v h := by
    simp only [collaborators, directories, ← h.sys]
    cases w.sys.changeDir path with
    | ok sys => exact ⟨rfl, h.withSys sys⟩
    | error cause => exact ⟨rfl, h⟩
  log record _ _ h := h.record record
  becomeUser user w v h := by
    have htold := h.tell executor.sink executor.guard .userRequest user
    simp only [collaborators, becomeUser, ← htold.identity]
    refine ⟨rfl, ?_⟩
    dsimp only
    split
    · exact htold.record _
    · exact htold
  find name w v h := by
    simp only [collaborators, find, ← h.sys]
    refine ⟨rfl, ?_⟩
    dsimp only
    split
    · exact h.record _
    · exact h
  slot h := h.slot_eq executor.guard
  setSlot slot _ _ h := h.setSlot executor.guard slot
  error text _ _ h := h.tell executor.sink executor.guard .error text
  warn text _ _ h := h.tell executor.sink executor.guard .warning text
  spawn plan w v h := by
    simp only [collaborators, ← h.sys]
    cases w.sys.spawn plan with
    | ok created => exact ⟨rfl, h.withSys created.2⟩
    | error cause => exact ⟨rfl, h⟩
  pid? _ := rfl
  outputs chunk child w v h := by
    simp only [collaborators, ← h.sys]
    exact ⟨rfl, h.withSys _⟩

/-- Two launches of an executor of which one has named arguments. -/
theorem trace_of_named (h : req.SameButNamed req') (hplain : req.args.named.isEmpty = true)
    (hnamed : req'.args.named.isEmpty = false) (w : World) :
    if .reserved ∈ Event.slots (trace executor.collaborators executor.launcher req w) then
      ∃ w₁ way more,
        trace executor.collaborators executor.launcher req w = way ++ acquisition ++ more ∧
        trace executor.collaborators executor.launcher req' w = way ++ acquisition ++ .warn namedWarning :: more ∧
        Alike (World.Alongside w₁ (executor.warn namedWarning w₁)) (executor.launch req w) (executor.launch req' w)
    else executor.launch req w = executor.launch req' w ∧
      trace executor.collaborators executor.launcher req w = trace executor.collaborators executor.launcher req' w :=
  Launch.trace_of_named (R := fun w₁ => World.Alongside w₁ (executor.warn namedWarning w₁))
    (fun w₁ => agree_alongside w₁ _) (fun w₁ => warn_alongside w₁ namedWarning) h hplain hnamed w

/-! ## At the point of spawning -/

/-- A launch that began in `w` comes to hand over a program, in `w₁`. -/
def ComesTo (executor : Executor) (req : Request) (w : World) (program : Path) (w₁ : World) : Prop :=
  ∃ l, Steps executor.collaborators executor.launcher req {} w l w₁ ∧ l.stage = .spawning program

variable {w w₁ w₂ : World} {program program' : Path}

theorem Locates.unique (h : Locates executor req w program) (h' : Locates executor req w program') :
    program = program' := by
  unfold Locates at h h'
  split at h <;> split at h <;> simp_all

/-- Whatever its arguments, a launch hands over one program, on one host. -/
theorem ComesTo.congr (hcmd : req.cmd = req'.cmd) (hchange : req.changeDir = req'.changeDir)
    (h : ComesTo executor req w program w₁) (h' : ComesTo executor req' w program' w₂) :
    program = program' ∧ w₁.sys = w₂.sys := by
  obtain ⟨l, hsteps, hstage⟩ := h
  obtain ⟨l', hsteps', hstage'⟩ := h'
  obtain ⟨hlocates, hstands⟩ := prepared hsteps hstage
  obtain ⟨hlocates', hstands'⟩ := prepared hsteps' hstage'
  have hprogram : program = program' := by
    refine hlocates.unique ?_
    unfold Locates at hlocates' ⊢
    rw [hcmd, hchange]
    exact hlocates'
  refine ⟨hprogram, ?_⟩
  unfold StandsAt at hstands hstands'
  rw [hchange, hprogram] at hstands
  split at hstands
  · rename_i hmove
    rw [if_pos hmove, hstands] at hstands'
    exact Except.ok.inj hstands'
  · rename_i hstay
    rw [if_neg hstay] at hstands'
    rw [hstands, hstands']

/-- Whatever its arguments, the child of a launch executes one file. -/
theorem ComesTo.executes (hcmd : req.cmd = req'.cmd) (hchange : req.changeDir = req'.changeDir)
    (h : ComesTo executor req w program w₁) (h' : ComesTo executor req' w program' w₂) {child child' : Child}
    {sys sys' : System} (hspawn : w₁.sys.spawn (.ofArgv program req.args.toArgv) = .ok (child, sys))
    (hspawn' : w₂.sys.spawn (.ofArgv program' req'.args.toArgv) = .ok (child', sys')) :
    w₁.sys.executes (.ofArgv program req.args.toArgv) = w₂.sys.executes (.ofArgv program' req'.args.toArgv) ∧
      child.program.utility = child'.program.utility := by
  obtain ⟨rfl, hsys⟩ := h.congr hcmd hchange h'
  rw [← hsys] at hspawn' ⊢
  exact System.executes_congr (by rw [ofArgv_program, ofArgv_program]) hspawn hspawn'

/-! ## Launches that are waited for -/

/-- The world in which a launch starts that is waited for; there is none without descriptors for a runtime. -/
def start? (runtime : Runtime) (w : World) : Option World :=
  if needsRuntime runtime then
    if w.sys.hasFree runtimeDescriptors then
      some { w with sys := { w.sys with reserved := w.sys.reserved + runtimeDescriptors } }
    else none
  else some w

variable {runtime : Runtime} {w₀ : World}

/-- The world in which it ends: the runtime's descriptors are given back. -/
def finish (runtime : Runtime) (w after : World) : World :=
  if needsRuntime runtime then { after with sys := { after.sys with reserved := w.sys.reserved } } else after

/-- What is waited for is the launch from there. -/
theorem launchBlocking_of_start (hstart : start? runtime w = some w₀) (req : Request) :
    executor.launchBlocking runtime req w =
      ((executor.launch req w₀).1, finish runtime w (executor.launch req w₀).2) := by
  unfold start? at hstart
  unfold launchBlocking finish
  split at hstart
  · rename_i hneeds
    split at hstart
    · rename_i hfree
      cases hstart
      rw [if_pos hneeds, if_pos hfree, if_pos hneeds]
    · cases hstart
  · rename_i hneeds
    cases hstart
    rw [if_neg hneeds, if_neg hneeds]

theorem finish_alongside (runtime : Runtime) (w : World) {w₁ v₁ v v' : World} (h : World.Alongside w₁ v₁ v v') :
    World.Alongside w₁ v₁ (finish runtime w v) (finish runtime w v') := by
  unfold finish
  split
  · exact ⟨congrArg (fun sys : System => { sys with reserved := w.sys.reserved }) h.sys, h.identity, h.slots,
      h.reports, h.records⟩
  · exact h

end Executor

end ScriptExec
