-- SUMMARY: The steps of a launch as a relation, launches as sequences of steps, and where they end.
import ScriptExec.Launch

/-!
# Steps of launches

`Launch.Step` lists what one step can do, one case for each way a stage can go (`step_spec`). A launch is
a sequence of such steps (`Launch.Steps`) from its first stage to a finished one (`run_steps`), so what
every step keeps holds at the end of every launch.
-/

namespace ScriptExec

namespace Launch

variable {σ κ : Type}

/-- The outcome on which a launch has settled. What comes after that only undoes and reports. -/
def Stage.settled? : Stage κ → Option Outcome
  | .restoring outcome | .reportingRestore _ _ outcome | .releasing outcome | .recording outcome
  | .finished outcome => some outcome
  | _ => none

section

variable (c : Collaborators σ κ) (launcher : Launcher) (req : Request)

inductive Step : InFlight κ → σ → InFlight κ → σ → Prop
  | accept {dir held w} (h : req.validate = .ok ()) :
      Step ⟨.validating, dir, held⟩ w ⟨.switchingUser, dir, held⟩ w
  | reject {dir held w e} (h : req.validate = .error e) :
      Step ⟨.validating, dir, held⟩ w ⟨.finished (.error e), dir, held⟩ w
  | switch {dir held w w'} (h : switchUser c launcher req w = (.ok (), w')) :
      Step ⟨.switchingUser, dir, held⟩ w ⟨.locating, dir, held⟩ w'
  | notSwitch {dir held w w' e} (h : switchUser c launcher req w = (.error e, w')) :
      Step ⟨.switchingUser, dir, held⟩ w ⟨.finished (.error e), dir, held⟩ w'
  | locateToMove {dir held w w' program} (h : locate c launcher req w = (.ok program, w'))
      (hmove : req.changeDir = true) :
      Step ⟨.locating, dir, held⟩ w ⟨.savingDir program, dir, held⟩ w'
  | locateToStay {dir held w w' program} (h : locate c launcher req w = (.ok program, w'))
      (hstay : req.changeDir = false) :
      Step ⟨.locating, dir, held⟩ w ⟨.acquiring program, dir, held⟩ w'
  | notLocate {dir held w w' e} (h : locate c launcher req w = (.error e, w')) :
      Step ⟨.locating, dir, held⟩ w ⟨.finished (.error e), dir, held⟩ w'
  | save {dir held w w' program saved}
      (h : DirectoryContext.save c.toDirectories w = (saved, w')) :
      Step ⟨.savingDir program, dir, held⟩ w ⟨.enteringDir program saved, dir, held⟩ w'
  | enter {dir held w w' program path context}
      (h : DirectoryContext.move c.toDirectories (.ok path) (Path.containingDir program) w =
        (.ok context, w')) :
      Step ⟨.enteringDir program (.ok path), dir, held⟩ w ⟨.acquiring program, some context, held⟩ w'
  | enterUnsaved {dir held w w' program cause context}
      (h : DirectoryContext.move c.toDirectories (.error cause) (Path.containingDir program) w =
        (.ok context, w')) :
      Step ⟨.enteringDir program (.error cause), dir, held⟩ w
        ⟨.reportingSave program cause, some context, held⟩ w'
  | notEnter {dir held w w' program saved e}
      (h : DirectoryContext.move c.toDirectories saved (Path.containingDir program) w =
        (.error e, w')) :
      Step ⟨.enteringDir program saved, dir, held⟩ w ⟨.finished (.error e), dir, held⟩ w'
  | reportSave {dir held w program cause} :
      Step ⟨.reportingSave program cause, dir, held⟩ w ⟨.acquiring program, dir, held⟩
        (c.warn (saveWarning cause) w)
  | acquire {dir held w program} (h : c.slot w = .idle) :
      Step ⟨.acquiring program, dir, held⟩ w ⟨.warning program, dir, true⟩
        (c.log (guardRecord .trace [] "execution guard acquired") (c.setSlot .reserved w))
  | busy {dir held w program} (h : c.slot w ≠ .idle) :
      Step ⟨.acquiring program, dir, held⟩ w ⟨.refused, dir, held⟩
        (c.log (guardRecord .debug ["state"] "execution guard busy") w)
  | refuse {dir held w} :
      Step ⟨.refused, dir, held⟩ w
        ⟨.restoring (.error (.reentrancy (c.slot w).trackedPid?)), dir, held⟩ w
  | warn {dir held w program} :
      Step ⟨.warning program, dir, held⟩ w ⟨.spawning program, dir, held⟩
        (if req.args.named.isEmpty then w else c.warn namedWarning w)
  | notSpawn {dir held w w' program cause}
      (h : c.spawn (.ofArgv program req.args.toArgv) w = (.error cause, w')) :
      Step ⟨.spawning program, dir, held⟩ w ⟨.restoring (.error (.spawn req.cmd cause)), dir, held⟩ w'
  | spawn {dir held w w' program child}
      (h : c.spawn (.ofArgv program req.args.toArgv) w = (.ok child, w')) :
      Step ⟨.spawning program, dir, held⟩ w ⟨.tracking child, dir, held⟩
        (c.log (launcherRecord .debug ["cmd", "pid", "argc"] "spawned child") w')
  | track {dir held w child} :
      Step ⟨.tracking child, dir, held⟩ w ⟨.draining child, dir, held⟩
        (match c.pid? child with
          | some pid => c.setSlot (.tracking pid) w
          | none => w)
  | drain {dir held w w' child outputs result d}
      (h : c.outputs launcher.multiplexer.chunkSize child w = (outputs, w'))
      (hdrain : launcher.multiplexer.drain outputs.a outputs.b outputs.schedule = (result, d)) :
      Step ⟨.draining child, dir, held⟩ w ⟨.restoring result, dir, held⟩
        (c.log (launcherRecord .debug ["pid", "status"] "child exited")
          ((drainRecords result d).foldl (fun w record => c.log record w) w'))
  | stay {held w outcome} :
      Step ⟨.restoring outcome, none, held⟩ w ⟨.releasing outcome, none, held⟩ w
  | restore {held w w' outcome context done}
      (h : context.restore c.toDirectories w = (.ok (), done, w')) :
      Step ⟨.restoring outcome, some context, held⟩ w ⟨.releasing outcome, some done, held⟩ w'
  | notRestore {held w w' outcome context done path cause}
      (h : context.restore c.toDirectories w = (.error (path, cause), done, w')) :
      Step ⟨.restoring outcome, some context, held⟩ w
        ⟨.reportingRestore path cause outcome, some done, held⟩ w'
  | reportRestore {dir held w path cause outcome} :
      Step ⟨.reportingRestore path cause outcome, dir, held⟩ w ⟨.releasing outcome, dir, held⟩
        (c.error (restoreError path cause) w)
  | release {dir w outcome} :
      Step ⟨.releasing outcome, dir, true⟩ w ⟨.recording outcome, dir, false⟩
        (c.log (guardRecord .trace [] "execution guard released") (c.setSlot .idle w))
  | leave {dir w outcome} :
      Step ⟨.releasing outcome, dir, false⟩ w ⟨.recording outcome, dir, false⟩ w
  | record {dir held w outcome} :
      Step ⟨.recording outcome, dir, held⟩ w ⟨.finished outcome, dir, held⟩
        (c.log (outcomeRecord outcome) w)

/-- A launch that has not finished makes one of the steps. -/
theorem step_spec {l : InFlight κ} (w : σ) (h : l.stage.outcome? = none) :
    Step c launcher req l w (step c launcher req l w).1 (step c launcher req l w).2 := by
  obtain ⟨stage, dir, held⟩ := l
  cases stage with
  | validating =>
    cases hvalid : req.validate with
    | ok u => simpa [step, InFlight.goTo, hvalid] using Step.accept hvalid
    | error e => simpa [step, InFlight.goTo, hvalid] using Step.reject hvalid
  | switchingUser =>
    rcases hswitch : switchUser c launcher req w with ⟨_ | _, w'⟩
    · simpa [step, InFlight.goTo, hswitch] using Step.notSwitch hswitch
    · simpa [step, InFlight.goTo, hswitch] using Step.switch hswitch
  | locating =>
    rcases hlocate : locate c launcher req w with ⟨_ | program, w'⟩
    · simpa [step, InFlight.goTo, hlocate] using Step.notLocate hlocate
    · cases hmove : req.changeDir with
      | false => simpa [step, InFlight.goTo, hlocate, hmove] using Step.locateToStay hlocate hmove
      | true => simpa [step, InFlight.goTo, hlocate, hmove] using Step.locateToMove hlocate hmove
  | savingDir program => exact .save rfl
  | enteringDir program saved =>
    rcases hmove : DirectoryContext.move c.toDirectories saved (Path.containingDir program) w
      with ⟨_ | context, w'⟩
    · simpa [step, InFlight.goTo, hmove] using Step.notEnter hmove
    · cases saved with
      | ok path => simpa [step, hmove] using Step.enter hmove
      | error cause => simpa [step, hmove] using Step.enterUnsaved hmove
  | reportingSave program cause => exact .reportSave
  | acquiring program =>
    by_cases hidle : c.slot w = .idle
    · simpa [step, hidle, Slot.acquire?] using Step.acquire hidle
    · have hbusy : (c.slot w).acquire? = none := by
        cases hslot : c.slot w <;> first | exact absurd hslot hidle | rfl
      simpa [step, InFlight.goTo, hbusy] using Step.busy hidle
  | refused => exact .refuse
  | warning program => exact .warn
  | spawning program =>
    rcases hspawn : c.spawn (.ofArgv program req.args.toArgv) w with ⟨_ | child, w'⟩
    · simpa [step, InFlight.goTo, hspawn] using Step.notSpawn hspawn
    · simpa [step, InFlight.goTo, hspawn] using Step.spawn hspawn
  | tracking child => exact .track
  | draining child => exact .drain rfl rfl
  | restoring outcome =>
    cases dir with
    | none => exact .stay
    | some context =>
      rcases hrestore : context.restore c.toDirectories w with ⟨⟨path, cause⟩ | _, done, w'⟩
      · simpa [step, hrestore] using Step.notRestore hrestore
      · simpa [step, hrestore] using Step.restore hrestore
  | reportingRestore path cause outcome => exact .reportRestore
  | releasing outcome =>
    cases held with
    | false => exact .leave
    | true => exact .release
  | recording outcome => exact .record
  | finished outcome => simp [Stage.outcome?] at h

variable {c launcher req}

/-- A launch does not change its mind. -/
theorem Step.settled {l l' : InFlight κ} {w w' : σ} {outcome : Outcome}
    (h : Step c launcher req l w l' w') (hsettled : l.stage.settled? = some outcome) :
    l'.stage.settled? = some outcome := by
  cases h <;> simp_all [Stage.settled?]

variable (c launcher req)

/-! ## Sequences of steps -/

/-- The launch at `l` comes, sooner or later, to `l'`, where it finds the world `w'`. -/
inductive Steps (l : InFlight κ) (w : σ) : InFlight κ → σ → Prop
  | refl : Steps l w l w
  | tail {l' : InFlight κ} {w' : σ} : Steps l w l' w' → l'.stage.outcome? = none →
      Steps l w (step c launcher req l' w').1 (step c launcher req l' w').2

theorem Stage.eq_finished {stage : Stage κ} (h : stage.outcome? ≠ none) :
    ∃ outcome, stage = .finished outcome := by
  cases stage with
  | finished outcome => exact ⟨outcome, rfl⟩
  | _ => exact absurd rfl h

variable {c launcher req}
variable {l l' : InFlight κ} {w w' : σ}

/-- What every step on the way keeps is kept by the whole way. -/
theorem Steps.keeps {P : InFlight κ → σ → Prop}
    (hstep : ∀ {l₁ w₁ l₂ w₂}, Steps c launcher req l w l₁ w₁ → P l₁ w₁ →
      Step c launcher req l₁ w₁ l₂ w₂ → P l₂ w₂)
    (h : Steps c launcher req l w l' w') (hstart : P l w) : P l' w' := by
  induction h with
  | refl => exact hstart
  | tail hsteps hgoing ih => exact hstep hsteps ih (step_spec c launcher req _ hgoing)

theorem Steps.head (hgoing : l.stage.outcome? = none)
    (h : Steps c launcher req (step c launcher req l w).1 (step c launcher req l w).2 l' w') :
    Steps c launcher req l w l' w' := by
  induction h with
  | refl => exact .tail .refl hgoing
  | tail _ hgoing' ih => exact .tail ih hgoing'

theorem advance_steps (stop : Stage κ → Bool) (l : InFlight κ) (w : σ) :
    Steps c launcher req l w (advance c launcher req stop l w).1
      (advance c launcher req stop l w).2 := by
  fun_induction advance c launcher req stop l w with
  | case1 => exact .refl
  | case2 l w _ hgoing ih => exact ih.head hgoing
  | case3 => exact .refl

theorem complete_of_finished {outcome : Outcome} (h : l.stage = .finished outcome) :
    complete c launcher req l w = (outcome, w) := by
  have hlast : advance c launcher req (fun _ => false) l w = (l, w) := by
    rw [advance]
    simp [h, Stage.outcome?]
  simp [complete, hlast, h, Stage.outcome?]

theorem complete_of_step (hgoing : l.stage.outcome? = none) :
    complete c launcher req l w =
      complete c launcher req (step c launcher req l w).1 (step c launcher req l w).2 := by
  have hnext : advance c launcher req (fun _ => false) l w =
      advance c launcher req (fun _ => false) (step c launcher req l w).1
        (step c launcher req l w).2 := by
    rw [advance]
    simp [hgoing]
  simp [complete, hnext]

/-- Going on from a later moment leads to the same end. -/
theorem Steps.complete_eq (h : Steps c launcher req l w l' w') :
    complete c launcher req l w = complete c launcher req l' w' := by
  induction h with
  | refl => rfl
  | tail _ hgoing ih => rw [ih, complete_of_step hgoing]

theorem complete_steps (l : InFlight κ) (w : σ) :
    ∃ last, Steps c launcher req l w last (complete c launcher req l w).2 ∧
      last.stage = .finished (complete c launcher req l w).1 := by
  have hsteps : Steps c launcher req l w _ _ := advance_steps (fun _ => false) l w
  have hlast := hsteps.complete_eq
  have hdone := advance_outcome c launcher req l w
  revert hsteps hlast hdone
  generalize advance c launcher req (fun _ => false) l w = last
  obtain ⟨last, w'⟩ := last
  intro hsteps hlast hdone
  obtain ⟨outcome, hstage⟩ := Stage.eq_finished (Option.isSome_iff_ne_none.mp hdone)
  rw [complete_of_finished hstage] at hlast
  rw [hlast]
  exact ⟨last, hsteps, hstage⟩

/-- Every launch goes on to a finished stage, which has its outcome. -/
theorem run_steps (w : σ) :
    ∃ last, Steps c launcher req {} w last (run c launcher req w).2 ∧
      last.stage = .finished (run c launcher req w).1 :=
  complete_steps {} w

end

end Launch

/-! ## A plain world -/

/-- A world of no more than the guard's slot and the working directory. Every call succeeds, and every
child writes the same. -/
def Collaborators.plain (outputs : Outputs) : Collaborators (Slot × Path) Unit where
  current w := .ok w.2
  change path w := (.ok (), w.1, path)
  log _ w := w
  becomeUser _ w := (.ok (), w)
  find name w := (some (utf8 name), w)
  slot w := w.1
  setSlot slot w := (slot, w.2)
  spawn _ w := (.ok (), w)
  pid? _ := some 1000
  outputs _ _ w := (outputs, w)
  error _ w := w
  warn _ w := w

end ScriptExec
