-- SUMMARY: A launch leaves the guard and the working directory as it found them, whatever comes in between.
import Mathlib.Control.Monad.Basic
import ScriptExec.Proofs.Launch.Journey

/-!
# What a launch leaves behind

A launch takes the guard only when it is idle, and frees it before it ends (`GuardKept`), so the slot is
at the end what it was at first. With the journey it makes through the directories, that is all that a
launch has to undo (`launch_cleans_up`).
-/

namespace ScriptExec

variable {σ κ δ : Type}

namespace Launch

variable {c : Collaborators σ κ} {launcher : Launcher} {req : Request}

/-! ## The guard -/

/-- Whether a launch holds the guard, where its stage tells. -/
def Stage.holds? : Stage κ → Option Bool
  | .warning _ | .spawning _ | .tracking _ | .draining _ => some true
  | .restoring _ | .reportingRestore _ _ _ | .releasing _ => none
  | _ => some false

/-- Who holds the guard found it idle; who does not has not changed its slot. -/
structure GuardKept (c : Collaborators σ κ) (w₀ : σ) (l : InFlight κ) (w : σ) : Prop where
  holds : ∀ b, l.stage.holds? = some b → l.holdsGuard = b
  found : l.holdsGuard = true → c.slot w₀ = .idle
  kept : l.holdsGuard = false → c.slot w = c.slot w₀

/-- What a launch needs of its collaborators to leave the guard alone: no other call changes the slot,
and a slot that is freed is idle. -/
structure KeepsSlot (c : Collaborators σ κ) : Prop where
  keeps : c.Keeps c.slot
  change : ∀ path w, c.slot (c.change path w).2 = c.slot w
  error : ∀ text w, c.slot (c.error text w) = c.slot w
  setSlot_idle : ∀ w, c.slot (c.setSlot .idle w) = .idle

theorem GuardKept.of_slot_eq {w₀ w w' : σ} {stage stage' : Stage κ}
    {dir dir' : Option DirectoryContext} {held : Bool} (h : GuardKept c w₀ ⟨stage, dir, held⟩ w)
    (hslot : c.slot w' = c.slot w) (hholds : ∀ b, stage'.holds? = some b → held = b) :
    GuardKept c w₀ ⟨stage', dir', held⟩ w' where
  holds := hholds
  found := h.found
  kept hheld := hslot.trans (h.kept hheld)

theorem GuardKept.step {w₀ w w' : σ} {l l' : InFlight κ} (hc : KeepsSlot c)
    (h : GuardKept c w₀ l w) (hstep : Step c launcher req l w l' w') : GuardKept c w₀ l' w' := by
  have hearly := hc.keeps.toKeepsEarly
  have hunsure : ∀ {held : Bool} (b : Bool), none = some b → held = b := nofun
  cases hstep with
  | accept | reject => exact h.of_slot_eq rfl h.holds
  | switch hswitch => exact h.of_slot_eq (switchUser_keeps hearly hswitch) h.holds
  | notSwitch hswitch => exact h.of_slot_eq (switchUser_keeps hearly hswitch) h.holds
  | locateToMove hlocate => exact h.of_slot_eq (locate_keeps hearly hlocate) h.holds
  | locateToStay hlocate => exact h.of_slot_eq (locate_keeps hearly hlocate) h.holds
  | notLocate hlocate => exact h.of_slot_eq (locate_keeps hearly hlocate) h.holds
  | save hsave => exact h.of_slot_eq (save_keeps hearly hsave) h.holds
  | enter hmove | enterUnsaved hmove =>
    obtain ⟨v, hchange, -, rfl⟩ := move_ok hmove
    have hslot := (congrArg (fun x => c.slot x.2) hchange).symm.trans (hc.change _ w)
    exact h.of_slot_eq ((hearly.log _ v).trans hslot) h.holds
  | notEnter hmove =>
    obtain ⟨cause, hchange, -⟩ := move_error hmove
    have hslot := (congrArg (fun x => c.slot x.2) hchange).symm.trans (hc.change _ w)
    exact h.of_slot_eq hslot h.holds
  | reportSave => exact h.of_slot_eq (hc.keeps.warn _ w) h.holds
  | acquire hidle =>
    have hfree := h.kept (h.holds false rfl)
    exact ⟨fun b hb => Option.some.inj hb, fun _ => hfree ▸ hidle, nofun⟩
  | busy => exact h.of_slot_eq (hearly.log _ w) h.holds
  | refuse => exact h.of_slot_eq rfl hunsure
  | warn =>
    refine h.of_slot_eq ?_ h.holds
    split
    · rfl
    · exact hc.keeps.warn _ w
  | notSpawn hspawn =>
    have hslot := (congrArg (fun x => c.slot x.2) hspawn).symm.trans (hc.keeps.spawn _ w)
    exact h.of_slot_eq hslot hunsure
  | spawn hspawn =>
    have hslot := (congrArg (fun x => c.slot x.2) hspawn).symm.trans (hc.keeps.spawn _ w)
    exact h.of_slot_eq ((hearly.log _ _).trans hslot) h.holds
  | track =>
    -- The slot now has the child's number, which only its holder may write there.
    obtain rfl := h.holds true rfl
    exact ⟨h.holds, h.found, nofun⟩
  | drain hout =>
    have hslot := (congrArg (fun x => c.slot x.2) hout).symm.trans (hc.keeps.outputs _ _ w)
    refine h.of_slot_eq ?_ hunsure
    exact (hearly.log _ _).trans ((logAll_keeps hearly _ _).trans hslot)
  | stay => exact h.of_slot_eq rfl hunsure
  | restore hrestore => exact h.of_slot_eq (restore_keeps hearly hc.change hrestore) hunsure
  | notRestore hrestore => exact h.of_slot_eq (restore_keeps hearly hc.change hrestore) hunsure
  | reportRestore => exact h.of_slot_eq (hc.error _ w) hunsure
  | release =>
    refine ⟨fun b hb => Option.some.inj hb, nofun, fun _ => ?_⟩
    rw [hearly.log, hc.setSlot_idle, h.found rfl]
  | leave => exact h.of_slot_eq rfl (fun b hb => Option.some.inj hb)
  | record => exact h.of_slot_eq (hearly.log _ w) h.holds

/-- A launch leaves the guard's slot as it was. -/
theorem run_slot (hc : KeepsSlot c) (w : σ) : c.slot (run c launcher req w).2 = c.slot w := by
  obtain ⟨last, hsteps, hstage⟩ := @run_steps _ _ c launcher req w
  have hkept : GuardKept c w last (run c launcher req w).2 := by
    refine hsteps.keeps (fun _ h hstep => h.step hc hstep) ?_
    exact ⟨fun b hb => Option.some.inj hb, nofun, fun _ => rfl⟩
  refine hkept.kept (hkept.holds false ?_)
  rw [hstage]
  rfl

/-! ## The way back -/

/-- A launch that has settled ends with the outcome on which it has settled. -/
theorem complete_of_settled {l : InFlight κ} {outcome : Outcome}
    (hsettled : l.stage.settled? = some outcome) (w : σ) :
    (complete c launcher req l w).1 = outcome := by
  obtain ⟨last, hsteps, hstage⟩ := @complete_steps _ _ c launcher req l w
  have hlast : last.stage.settled? = some outcome :=
    hsteps.keeps (P := fun l _ => l.stage.settled? = some outcome)
      (fun _ h hstep => hstep.settled h) hsettled
  rw [hstage] at hlast
  exact Option.some.inj hlast

/-- Where a context goes back to, if it still does. -/
def home? (context : DirectoryContext) : Option Path :=
  if context.restored then none else context.saved

/-- The calls with which a launch goes back. -/
def wayBack (c : Collaborators σ κ) (l : InFlight κ) (w : σ) : List (Event κ) :=
  match l.dir.bind home? with
  | none => []
  | some dir =>
    .change dir (c.change dir w).1 ::
      match (c.change dir w).1 with
      | .ok () => [.log (DirectoryContext.record .debug "dir" "restored working directory")]
      | .error cause => [.error (restoreError dir cause)]

/-- The calls with which a launch ends once it is back. -/
def parting (held : Bool) (outcome : Outcome) : List (Event κ) :=
  (if held then [.setSlot .idle, .log (guardRecord .trace [] "execution guard released")] else []) ++
    [.log (outcomeRecord outcome)]

theorem calls_of_releasing (outcome : Outcome) (dir : Option DirectoryContext) (held : Bool)
    (s : σ × List (Event κ)) :
    (complete c.traced launcher req ⟨.releasing outcome, dir, held⟩ s).2.2 =
      s.2 ++ parting held outcome := by
  rw [complete_of_step rfl, complete_of_step rfl, complete_of_finished rfl]
  cases held <;> simp [step, InFlight.goTo, Collaborators.traced, parting]

/-- From the point at which it goes back, a launch makes the same calls however that ends, but for the one
that logs it or reports it. -/
theorem callsFrom_restoring {l : InFlight κ} {outcome : Outcome} (hstage : l.stage = .restoring outcome)
    (w : σ) : callsFrom c launcher req l w = wayBack c l w ++ parting l.holdsGuard outcome := by
  obtain ⟨_, dir, held⟩ := l
  obtain rfl : _ = Stage.restoring outcome := hstage
  unfold callsFrom wayBack
  rw [complete_of_step rfl]
  cases dir with
  | none => exact calls_of_releasing outcome none held (w, [])
  | some context =>
    obtain ⟨saved, target, restored⟩ := context
    cases restored with
    | true => exact calls_of_releasing outcome _ held (w, [])
    | false =>
      cases saved with
      | none => exact calls_of_releasing outcome _ held (w, [])
      | some dir =>
        have hhome : (some (DirectoryContext.mk (some dir) target false)).bind home? = some dir := rfl
        rcases hback : c.change dir w with ⟨cause | u, w'⟩
        · have hrestore : (DirectoryContext.mk (some dir) target false).restore c.traced.toDirectories
              (w, []) = (.error (dir, cause), ⟨some dir, target, true⟩, w',
                [.change dir (.error cause)]) := by
            simp [DirectoryContext.restore, Collaborators.traced, hback]
          simp only [step, hrestore, hhome, hback]
          rw [complete_of_step rfl]
          exact calls_of_releasing outcome _ held _
        · have hrestore : (DirectoryContext.mk (some dir) target false).restore c.traced.toDirectories
              (w, []) = (.ok (), ⟨some dir, target, true⟩,
                c.traced.log (DirectoryContext.record .debug "dir" "restored working directory")
                  (w', [.change dir (.ok ())])) := by
            simp [DirectoryContext.restore, Collaborators.traced, hback]
          simp only [step, hrestore, hhome, hback]
          exact calls_of_releasing outcome _ held _

/-- A launch that can enter the directory that it noted is back there at its end. -/
theorem run_dir {cwd : σ → δ} (hc : KeepsDir c cwd) {w : σ} {dir : Path} (hread : c.current w = .ok dir)
    (hback : ∀ w₁ outcome, Returns c launcher req w w₁ outcome →
      (c.change dir w₁).1 = .ok () ∧ cwd (c.change dir w₁).2 = cwd w) :
    cwd (run c launcher req w).2 = cwd w := by
  have hjourney := @run_journey _ _ _ c launcher req cwd hc w
  generalize hend : (cwd (run c launcher req w).2, _) = x at hjourney
  rw [show cwd (run c launcher req w).2 = x.1 from congrArg Prod.fst hend]
  cases hjourney with
  | stayed => rfl
  | refused => rfl
  | unsaved hunread => simp [hunread] at hread
  | back hread' hreturn hchange =>
    obtain rfl : _ = dir := Except.ok.inj (hread'.symm.trans hread)
    exact (hback _ _ hreturn).2
  | stuck hread' hreturn hchange =>
    obtain rfl : _ = dir := Except.ok.inj (hread'.symm.trans hread)
    rw [(hback _ _ hreturn).1] at hchange
    cases hchange

/-- However a launch ends, the guard's slot is what it was, and the directory is the one it was in if that
could be read and can still be entered. A directory that was entered is left by one change back to
the one that was noted, and by none if nothing was noted. Whether that change succeeds does not decide
on the outcome, nor on any later call but the one that reports its failure, or else logs it. -/
theorem launch_cleans_up (c : Collaborators σ κ) (launcher : Launcher) (req : Request) (cwd : σ → δ)
    (hslot : KeepsSlot c) (hdir : KeepsDir c cwd) (w : σ) :
    c.slot (run c launcher req w).2 = c.slot w ∧
    (∀ dir, c.current w = .ok dir →
      (∀ w₁ outcome, Returns c launcher req w w₁ outcome →
        (c.change dir w₁).1 = .ok () ∧ cwd (c.change dir w₁).2 = cwd w) →
      cwd (run c launcher req w).2 = cwd w) ∧
    Journey c launcher req cwd w
      (cwd (run c launcher req w).2, Event.changes (trace c launcher req w),
        Event.errors (trace c launcher req w)) ∧
    (∀ l₁ w₁ outcome, Steps c launcher req {} w l₁ w₁ → l₁.stage = .restoring outcome →
      (run c launcher req w).1 = outcome ∧
        ∀ change, (complete { c with change } launcher req l₁ w₁).1 = outcome ∧
          callsFrom { c with change } launcher req l₁ w₁ =
            wayBack { c with change } l₁ w₁ ++ parting l₁.holdsGuard outcome) := by
  refine ⟨run_slot hslot w, ?_, run_journey hdir w, ?_⟩
  · intro dir hread hback
    exact run_dir hdir hread hback
  · intro l₁ w₁ outcome hsteps hstage
    have hsettled : l₁.stage.settled? = some outcome := by
      rw [hstage]
      rfl
    refine ⟨?_, fun change => ⟨complete_of_settled hsettled w₁, callsFrom_restoring hstage w₁⟩⟩
    rw [run, hsteps.complete_eq]
    exact complete_of_settled hsettled w₁

theorem plain_keepsSlot (outputs : Outputs) : KeepsSlot (Collaborators.plain outputs) where
  keeps := ⟨⟨fun _ _ => rfl, fun _ _ => rfl, fun _ _ => rfl⟩, fun _ _ => rfl, fun _ _ _ => rfl,
    fun _ _ => rfl⟩
  change _ _ := rfl
  error _ _ := rfl
  setSlot_idle _ := rfl

theorem plain_keepsDir (outputs : Outputs) : KeepsDir (Collaborators.plain outputs) Prod.snd where
  keeps := ⟨⟨fun _ _ => rfl, fun _ _ => rfl, fun _ _ => rfl⟩, fun _ _ => rfl, fun _ _ _ => rfl,
    fun _ _ => rfl⟩
  setSlot _ _ := rfl
  error _ _ := rfl
  failed _ _ _ h := by cases h
  current := ⟨fun _ _ => rfl, fun _ _ => rfl, fun _ _ => rfl⟩

/-- A launch that finds the guard taken goes to its command's directory and back, and the guard keeps the
child of its holder. -/
theorem launch_cleans_up_of_busy :
    let req : Request := { cmd := "/bin/id", changeDir := true }
    let w : Slot × Path := (.tracking 7, utf8 "/work")
    (run (.plain default) {} req w).1 = .error (.reentrancy (some 7)) ∧
      Event.changes (trace (.plain default) {} req w) =
        [(utf8 "/bin", .ok ()), (utf8 "/work", .ok ())] ∧
      (run (.plain default) {} req w).2.1 = .tracking 7 ∧
      (run (.plain default) {} req w).2.2 = utf8 "/work" := by
  intro req w
  have hclean := launch_cleans_up (.plain default) {} req Prod.snd (plain_keepsSlot default)
    (plain_keepsDir default) w
  refine ⟨by decide +kernel, by decide +kernel, hclean.1, hclean.2.1 _ rfl ?_⟩
  intro w₁ outcome _
  exact ⟨rfl, rfl⟩

end Launch

end ScriptExec
