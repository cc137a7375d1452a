-- SUMMARY: What a launch changes at all: nothing, or what the child does that it has created.
import ScriptExec.Proofs.Launch.Holding

/-!
# Offspring of launches

A launch may have views of the world that only its child changes: one that is created, or one that runs. Such a
view is at the end what it was at first, or what it is after the run of a child that was created from there
(`run_offspring`). From where a launch goes back it does not change any more (`run_keeps_of_returns`).
-/

namespace ScriptExec

variable {σ κ α : Type}

/-- The same calls, but children are neither created nor run. -/
def Collaborators.childless (c : Collaborators σ κ) : Collaborators σ κ :=
  { c with
    spawn := fun _ w => (.error .noEntry, w)
    outputs := fun _ _ w => (default, w) }

/-- All calls keep a view but those that create a child or run it. -/
structure Collaborators.KeepsAlone (c : Collaborators σ κ) (view : σ → α) : Prop
    extends Collaborators.KeepsEarly c view where
  change : ∀ path w, view (c.change path w).2 = view w
  setSlot : ∀ slot w, view (c.setSlot slot w) = view w
  notSpawn : ∀ plan cause w w', c.spawn plan w = (.error cause, w') → view w' = view w
  error : ∀ text w, view (c.error text w) = view w
  warn : ∀ text w, view (c.warn text w) = view w

theorem Collaborators.KeepsAlone.childless {c : Collaborators σ κ} {view : σ → α} (h : c.KeepsAlone view) :
    c.childless.KeepsAside view where
  keeps := {
    log := h.log
    becomeUser := h.becomeUser
    find := h.find
    spawn := fun _ _ => rfl
    outputs := fun _ _ _ => rfl
    warn := h.warn }
  change := h.change
  error := h.error

namespace Launch

/-- Whether a child is created or run at a stage. -/
def Stage.rears : Stage κ → Bool
  | .spawning _ | .draining _ => true
  | _ => false

/-- The child that has been created and not yet run. -/
def Stage.child? : Stage κ → Option κ
  | .tracking child | .draining child => some child
  | _ => none

section

variable (c : Collaborators σ κ) (launcher : Launcher) (req : Request) (view : σ → α) (w₀ : σ)

/-- The launch comes to the point at which it creates a child, which leaves the world as it is told. -/
inductive Creates : κ → σ → Prop
  | intro {l w₁ program child w₂} (hsteps : Steps c launcher req {} w₀ l w₁)
      (hstage : l.stage = .spawning program)
      (hspawn : c.spawn (.ofArgv program req.args.toArgv) w₁ = (.ok child, w₂)) : Creates child w₂

/-- What a launch has changed of a view so far. -/
inductive Offspring : InFlight κ → σ → Prop
  | alone {l w} (hchild : l.stage.child? = none) (hview : view w = view w₀) : Offspring l w
  | created {l w child w₂} (hchild : l.stage.child? = some child)
      (hcreated : Creates c launcher req w₀ child w₂) (hview : view w = view w₂) : Offspring l w
  | run {l w child w₂ w₃ outcome} (hsettled : l.stage.settled? = some outcome)
      (hcreated : Creates c launcher req w₀ child w₂) (hwaits : view w₃ = view w₂)
      (hview : view w = view (c.outputs launcher.multiplexer.chunkSize child w₃).2) : Offspring l w

end

variable {c : Collaborators σ κ} {launcher : Launcher} {req : Request} {view : σ → α} {w₀ w w' : σ}
variable {l l' : InFlight κ}

/-! ## Steps -/

theorem Step.child? (h : Step c launcher req l w l' w') (hrears : l.stage.rears = false) :
    l'.stage.child? = l.stage.child? := by
  cases h <;> first | rfl | cases hrears

theorem step_childless (hrears : l.stage.rears = false) (w : σ) :
    step c.childless launcher req l w = step c launcher req l w := by
  obtain ⟨stage, dir, held⟩ := l
  cases stage <;> first | rfl | cases hrears

theorem rears_of_settled {outcome : Outcome} (h : l.stage.settled? = some outcome) : l.stage.rears = false := by
  obtain ⟨stage, dir, held⟩ := l
  cases stage <;> first | rfl | cases h

/-- A step without a child keeps the view. -/
theorem step_keeps (hc : c.KeepsAlone view) (hgoing : l.stage.outcome? = none)
    (hrears : l.stage.rears = false) (w : σ) : view (step c launcher req l w).2 = view w := by
  rw [← step_childless hrears]
  have hstep : Step c.childless launcher req l w _ _ := step_spec c.childless launcher req w hgoing
  generalize step c.childless launcher req l w = next at hstep
  obtain ⟨l', w'⟩ := next
  dsimp only at hstep ⊢
  cases hstep.atGuard hc.childless with
  | away hkept => exact hkept
  | takes _ hkept | notes _ hkept | frees hkept => exact hkept.trans (hc.setSlot _ _)

theorem Offspring.step (hc : c.KeepsAlone view) (hgoing : l.stage.outcome? = none)
    (hsteps : Steps c launcher req {} w₀ l w) (h : Offspring c launcher req view w₀ l w) :
    Offspring c launcher req view w₀ (step c launcher req l w).1 (step c launcher req l w).2 := by
  have hstep := step_spec c launcher req w hgoing
  cases hrears : l.stage.rears with
  | false =>
    have hkept : view (Launch.step c launcher req l w).2 = view w := step_keeps hc hgoing hrears w
    cases h with
    | alone hchild hview => exact .alone ((hstep.child? hrears).trans hchild) (hkept.trans hview)
    | created hchild hcreated hview =>
      exact .created ((hstep.child? hrears).trans hchild) hcreated (hkept.trans hview)
    | run hsettled hcreated hwaits hview =>
      exact .run (hstep.settled hsettled) hcreated hwaits (hkept.trans hview)
  | true =>
    generalize Launch.step c launcher req l w = next at hstep ⊢
    obtain ⟨l', w'⟩ := next
    dsimp only at hstep ⊢
    cases hstep with
    | notSpawn hspawn =>
      cases h with
      | alone _ hview => exact .alone rfl ((hc.notSpawn _ _ _ _ hspawn).trans hview)
      | created hchild => cases hchild
      | run hsettled => cases hsettled
    | spawn hspawn =>
      cases h with
      | alone => exact .created rfl (.intro hsteps rfl hspawn) (hc.log _ _)
      | created hchild => cases hchild
      | run hsettled => cases hsettled
    | drain hout =>
      cases h with
      | alone hchild => cases hchild
      | created hchild hcreated hview =>
        obtain rfl := Option.some.inj hchild
        obtain rfl := (congrArg Prod.snd hout).symm
        exact .run rfl hcreated hview ((hc.log _ _).trans (logAll_keeps hc.toKeepsEarly _ _))
      | run hsettled => cases hsettled
    | _ => cases hrears

/-! ## Runs -/

theorem Steps.offspring (hc : c.KeepsAlone view) (h : Steps c launcher req {} w₀ l w) :
    Offspring c launcher req view w₀ l w := by
  induction h with
  | refl => exact .alone rfl rfl
  | tail hsteps hgoing ih => exact ih.step hc hgoing hsteps

/-- A launch has changed nothing, or a child that it created has run. -/
theorem run_offspring (hc : c.KeepsAlone view) (w : σ) :
    view (run c launcher req w).2 = view w ∨
      ∃ child w₂ w₃, Creates c launcher req w child w₂ ∧ view w₃ = view w₂ ∧
        view (run c launcher req w).2 = view (c.outputs launcher.multiplexer.chunkSize child w₃).2 := by
  obtain ⟨last, hsteps, hstage⟩ := @run_steps _ _ c launcher req w
  cases hsteps.offspring hc with
  | alone _ hview => exact .inl hview
  | created hchild =>
    rw [hstage] at hchild
    cases hchild
  | run _ hcreated hwaits hview => exact .inr ⟨_, _, _, hcreated, hwaits, hview⟩

/-- A launch that has settled has done with its child. -/
theorem Steps.keeps_of_settled (hc : c.KeepsAlone view) {outcome : Outcome}
    (hsettled : l.stage.settled? = some outcome) (h : Steps c launcher req l w l' w') :
    l'.stage.settled? = some outcome ∧ view w' = view w := by
  induction h with
  | refl => exact ⟨hsettled, rfl⟩
  | tail _ hgoing ih =>
    obtain ⟨hsettled', hview⟩ := ih
    exact ⟨(step_spec c launcher req _ hgoing).settled hsettled',
      (step_keeps hc hgoing (rears_of_settled hsettled') _).trans hview⟩

/-- From where a launch goes back it does not change the view any more. -/
theorem run_keeps_of_returns (hc : c.KeepsAlone view) {outcome : Outcome}
    (hreturn : Returns c launcher req w₀ w outcome) : view (run c launcher req w₀).2 = view w := by
  obtain ⟨l, hsteps, hstage⟩ := hreturn
  have hsettled : l.stage.settled? = some outcome := by
    rw [hstage]
    rfl
  rw [run, hsteps.complete_eq]
  obtain ⟨last, hrest, -⟩ := @complete_steps _ _ c launcher req l w
  exact (hrest.keeps_of_settled hc hsettled).2

end Launch

end ScriptExec
