-- SUMMARY: Launches through collaborators that answer alike go the same way.
import ScriptExec.Proofs.Launch.Step

/-!
# Agreement of collaborators

Two worlds may differ in what a launch does not get to see. If the collaborators of one launch answer as
those of another one do, and keep their worlds related, both launches go through the same stages. Up
to the creation of the child that needs no more than `Collaborators.Agree`, which is enough for a launch that comes to no
child; `Collaborators.AgreeFully` covers the whole way.
-/

namespace ScriptExec

variable {σ σ' κ : Type}

/-- Two calls that give the same answer and lead to related worlds. -/
def Alike {α : Type} (R : σ → σ' → Prop) (x : α × σ) (y : α × σ') : Prop :=
  x.1 = y.1 ∧ R x.2 y.2

theorem Alike.exists_eq {α : Type} {R : σ → σ' → Prop} {x : α × σ} {y : α × σ'} (h : Alike R x y) :
    ∃ answer v v', x = (answer, v) ∧ y = (answer, v') ∧ R v v' :=
  ⟨x.1, x.2, y.2, rfl, by rw [h.1], h.2⟩

/-- Agreement in all that comes before the child. -/
structure Collaborators.Agree (R : σ → σ' → Prop) (c : Collaborators σ κ) (c' : Collaborators σ' κ) :
    Prop where
  current : ∀ {w w'}, R w w' → c.current w = c'.current w'
  change : ∀ path {w w'}, R w w' → Alike R (c.change path w) (c'.change path w')
  log : ∀ record {w w'}, R w w' → R (c.log record w) (c'.log record w')
  becomeUser : ∀ user {w w'}, R w w' → Alike R (c.becomeUser user w) (c'.becomeUser user w')
  find : ∀ name {w w'}, R w w' → Alike R (c.find name w) (c'.find name w')
  slot : ∀ {w w'}, R w w' → c.slot w = c'.slot w'
  setSlot : ∀ slot {w w'}, R w w' → R (c.setSlot slot w) (c'.setSlot slot w')
  error : ∀ text {w w'}, R w w' → R (c.error text w) (c'.error text w')
  warn : ∀ text {w w'}, R w w' → R (c.warn text w) (c'.warn text w')

/-- Agreement in everything. -/
structure Collaborators.AgreeFully (R : σ → σ' → Prop) (c : Collaborators σ κ)
    (c' : Collaborators σ' κ) : Prop extends Collaborators.Agree R c c' where
  spawn : ∀ plan {w w'}, R w w' → Alike R (c.spawn plan w) (c'.spawn plan w')
  pid? : ∀ child, c.pid? child = c'.pid? child
  outputs : ∀ chunk child {w w'}, R w w' → Alike R (c.outputs chunk child w) (c'.outputs chunk child w')

namespace Launch

variable {R : σ → σ' → Prop} {c : Collaborators σ κ} {c' : Collaborators σ' κ}
variable (launcher : Launcher) (req : Request) {w : σ} {w' : σ'}

theorem save_alike (h : Collaborators.Agree R c c') (hw : R w w') :
    Alike R (DirectoryContext.save c.toDirectories w) (DirectoryContext.save c'.toDirectories w') := by
  unfold DirectoryContext.save
  rw [← h.current hw]
  cases c.current w with
  | ok dir => exact ⟨rfl, hw⟩
  | error cause => exact ⟨rfl, h.log _ hw⟩

theorem move_alike (h : Collaborators.Agree R c c') (saved : Except IoError Path) (target : Path)
    (hw : R w w') :
    Alike R (DirectoryContext.move c.toDirectories saved target w)
      (DirectoryContext.move c'.toDirectories saved target w') := by
  obtain ⟨answer, v, v', hx, hy, hv⟩ := (h.change target hw).exists_eq
  simp only [DirectoryContext.move, hx, hy]
  cases answer with
  | ok _ => exact ⟨rfl, h.log _ hv⟩
  | error cause => exact ⟨rfl, hv⟩

theorem restore_alike (h : Collaborators.Agree R c c') (context : DirectoryContext) (hw : R w w') :
    ∃ result done v v', context.restore c.toDirectories w = (result, done, v) ∧
      context.restore c'.toDirectories w' = (result, done, v') ∧ R v v' := by
  unfold DirectoryContext.restore
  split
  · exact ⟨_, _, _, _, rfl, rfl, hw⟩
  · cases context.saved with
    | none => exact ⟨_, _, _, _, rfl, rfl, hw⟩
    | some dir =>
      obtain ⟨answer, v, v', hx, hy, hv⟩ := (h.change dir hw).exists_eq
      simp only [hx, hy]
      cases answer with
      | ok _ => exact ⟨_, _, _, _, rfl, rfl, h.log _ hv⟩
      | error cause => exact ⟨_, _, _, _, rfl, rfl, hv⟩

theorem switchUser_alike (h : Collaborators.Agree R c c') (hw : R w w') :
    Alike R (switchUser c launcher req w) (switchUser c' launcher req w') := by
  unfold switchUser
  cases req.user with
  | none => exact ⟨rfl, hw⟩
  | some user =>
    dsimp only
    split
    · exact ⟨rfl, h.log _ hw⟩
    · obtain ⟨answer, v, v', hx, hy, hv⟩ := (h.becomeUser user hw).exists_eq
      simp only [hx, hy]
      cases answer <;> exact ⟨rfl, hv⟩

theorem locate_alike (h : Collaborators.Agree R c c') (hw : R w w') :
    Alike R (locate c launcher req w) (locate c' launcher req w') := by
  obtain ⟨found, v, v', hx, hy, hv⟩ := (h.find req.cmd hw).exists_eq
  simp only [locate, hx, hy]
  split
  · split
    · exact ⟨rfl, hw⟩
    · cases found <;> exact ⟨rfl, hv⟩
  · split
    · exact ⟨rfl, hw⟩
    · cases found <;> exact ⟨rfl, hv⟩

/-- The stages in which a launch creates its child and waits for it. -/
def Stage.hasChild : Stage κ → Bool
  | .spawning _ | .tracking _ | .draining _ => true
  | _ => false

/-- A step that neither creates a child nor waits for it goes alike. -/
theorem step_alike (h : Collaborators.Agree R c c') {l : InFlight κ} (hstage : l.stage.hasChild = false)
    (hw : R w w') : Alike R (step c launcher req l w) (step c' launcher req l w') := by
  obtain ⟨stage, dir, held⟩ := l
  cases stage with
  | validating =>
    simp only [step]
    cases req.validate <;> exact ⟨rfl, hw⟩
  | switchingUser =>
    obtain ⟨answer, v, v', hx, hy, hv⟩ :=
      (switchUser_alike launcher req h hw).exists_eq
    simp only [step, hx, hy]
    cases answer <;> exact ⟨rfl, hv⟩
  | locating =>
    obtain ⟨answer, v, v', hx, hy, hv⟩ :=
      (locate_alike launcher req h hw).exists_eq
    simp only [step, hx, hy]
    cases answer <;> exact ⟨rfl, hv⟩
  | savingDir program =>
    obtain ⟨saved, v, v', hx, hy, hv⟩ := (save_alike h hw).exists_eq
    simp only [step, hx, hy]
    exact ⟨rfl, hv⟩
  | enteringDir program saved =>
    obtain ⟨answer, v, v', hx, hy, hv⟩ :=
      (move_alike h saved (Path.containingDir program) hw).exists_eq
    simp only [step, hx, hy]
    cases answer <;> exact ⟨rfl, hv⟩
  | reportingSave program cause => exact ⟨rfl, h.warn _ hw⟩
  | acquiring program =>
    simp only [step, ← h.slot hw]
    cases (c.slot w).acquire? with
    | none => exact ⟨rfl, h.log _ hw⟩
    | some taken => exact ⟨rfl, h.log _ (h.setSlot taken hw)⟩
  | refused =>
    simp only [step, ← h.slot hw]
    exact ⟨rfl, hw⟩
  | warning program =>
    simp only [step]
    split
    · exact ⟨rfl, hw⟩
    · exact ⟨rfl, h.warn _ hw⟩
  | spawning program => cases hstage
  | tracking child => cases hstage
  | draining child => cases hstage
  | restoring outcome =>
    cases dir with
    | none => exact ⟨rfl, hw⟩
    | some context =>
      obtain ⟨result, done, v, v', hx, hy, hv⟩ := restore_alike h context hw
      simp only [step, hx, hy]
      cases result <;> exact ⟨rfl, hv⟩
  | reportingRestore path cause outcome => exact ⟨rfl, h.error _ hw⟩
  | releasing outcome =>
    cases held with
    | false => exact ⟨rfl, hw⟩
    | true => exact ⟨rfl, h.log _ (h.setSlot _ hw)⟩
  | recording outcome => exact ⟨rfl, h.log _ hw⟩
  | finished outcome => exact ⟨rfl, hw⟩

/-- Launches that agree come alike to the first stage at which they stop, if that is before any child. -/
theorem advance_alike (h : Collaborators.Agree R c c') {stop : Stage κ → Bool}
    (hstop : ∀ stage, stop stage = false → stage.hasChild = false) (l : InFlight κ) (hw : R w w') :
    Alike R (advance c launcher req stop l w) (advance c' launcher req stop l w') := by
  fun_induction advance c launcher req stop l w generalizing w' with
  | case1 l w hhere =>
    rw [advance, if_pos hhere]
    exact ⟨rfl, hw⟩
  | case2 l w hhere hgoing ih =>
    have hnext := step_alike launcher req h (hstop _ (by simpa using hhere)) hw
    rw [advance.eq_def c', if_neg hhere, dif_pos hgoing, ← hnext.1]
    exact ih hnext.2
  | case3 l w hhere hdone =>
    rw [advance, if_neg hhere, dif_neg hdone]
    exact ⟨rfl, hw⟩

/-! ## Launches that go alike -/

/-- Of two launches that go alike, step by step, the first one comes to whatever the second one comes to. -/
theorem Steps.alike {launcher : Launcher} {req : Request} {l l₁ : InFlight κ} {w₁' : σ'} (hw : R w w')
    (hstep : ∀ {l₁ w₁ w₁'}, Steps c launcher req l w l₁ w₁ → R w₁ w₁' →
      Alike R (step c launcher req l₁ w₁) (step c' launcher req l₁ w₁'))
    (hsteps : Steps c' launcher req l w' l₁ w₁') : ∃ w₁, Steps c launcher req l w l₁ w₁ ∧ R w₁ w₁' := by
  induction hsteps with
  | refl => exact ⟨w, .refl, hw⟩
  | tail _ hgoing ih =>
    obtain ⟨w₁, hsteps₁, hw₁⟩ := ih
    have hnext := hstep hsteps₁ hw₁
    rw [← hnext.1]
    exact ⟨_, .tail hsteps₁ hgoing, hnext.2⟩

/-- Launches that go alike end alike. -/
theorem complete_alike_of_step {l : InFlight κ} (hw : R w w')
    (hstep : ∀ {l₁ w₁ w₁'}, Steps c launcher req l w l₁ w₁ → R w₁ w₁' →
      Alike R (step c launcher req l₁ w₁) (step c' launcher req l₁ w₁')) :
    Alike R (complete c launcher req l w) (complete c' launcher req l w') := by
  obtain ⟨last, hsteps', hstage⟩ := @complete_steps _ _ c' launcher req l w'
  obtain ⟨w₁, hsteps, hw₁⟩ := hsteps'.alike hw hstep
  rw [hsteps.complete_eq, complete_of_finished hstage]
  exact ⟨rfl, hw₁⟩

/-- Launches that agree up to the child end alike, if the first one comes to none. -/
theorem complete_alike_of_childless (h : Collaborators.Agree R c c') {l : InFlight κ} (hw : R w w')
    (hnone : ∀ l₁ w₁, Steps c launcher req l w l₁ w₁ → l₁.stage.hasChild = false) :
    Alike R (complete c launcher req l w) (complete c' launcher req l w') :=
  complete_alike_of_step launcher req hw fun hsteps hw₁ => step_alike launcher req h (hnone _ _ hsteps) hw₁

/-! ## Agreement all the way -/

theorem logAll_related (h : Collaborators.Agree R c c') (records : List Log.Record) (hw : R w w') :
    R (records.foldl (fun w record => c.log record w) w)
      (records.foldl (fun w record => c'.log record w) w') := by
  induction records generalizing w w' with
  | nil => exact hw
  | cons record records ih => exact ih (h.log record hw)

theorem step_alike_fully (h : Collaborators.AgreeFully R c c') (l : InFlight κ) (hw : R w w') :
    Alike R (step c launcher req l w) (step c' launcher req l w') := by
  cases hstage : l.stage with
  | spawning program =>
    obtain ⟨answer, v, v', hx, hy, hv⟩ :=
      (h.spawn (.ofArgv program req.args.toArgv) hw).exists_eq
    simp only [step, hstage, hx, hy]
    cases answer with
    | error cause => exact ⟨rfl, hv⟩
    | ok child => exact ⟨rfl, h.log _ hv⟩
  | tracking child =>
    simp only [step, hstage, ← h.pid? child]
    cases c.pid? child with
    | none => exact ⟨rfl, hw⟩
    | some pid => exact ⟨rfl, h.setSlot _ hw⟩
  | draining child =>
    obtain ⟨outputs, v, v', hx, hy, hv⟩ :=
      (h.outputs launcher.multiplexer.chunkSize child hw).exists_eq
    simp only [step, hstage, hx, hy]
    exact ⟨rfl, h.log _ (logAll_related h.toAgree _ hv)⟩
  | _ => exact step_alike launcher req h.toAgree (by rw [hstage]; rfl) hw

/-- Launches that agree in everything end alike. -/
theorem complete_alike (h : Collaborators.AgreeFully R c c') (l : InFlight κ) (hw : R w w') :
    Alike R (complete c launcher req l w) (complete c' launcher req l w') :=
  complete_alike_of_step launcher req hw fun _ hw₁ => step_alike_fully launcher req h _ hw₁

end Launch

end ScriptExec
