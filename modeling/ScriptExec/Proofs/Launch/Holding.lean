-- SUMMARY: What a launch under way has done about the guard: what it wrote into its slot, and for which child.
import ScriptExec.Proofs.Launch.Order

/-!
# Holding the guard

A launch holds the guard from the call with which it takes it to the one with which it frees it, so
whether it holds it can be told from its calls (`Holds`, `Told.holds_iff`). In between it has written no
more than that the guard is taken and, once it has created a child, the number of that child
(`Marks`). How each step treats the guard is one of four cases (`Step.atGuard`).
-/

namespace ScriptExec

variable {σ κ α : Type}

/-- All calls keep a view but those that write into the guard's slot. -/
structure Collaborators.KeepsAside (c : Collaborators σ κ) (view : σ → α) : Prop where
  keeps : c.Keeps view
  change : ∀ path w, view (c.change path w).2 = view w
  error : ∀ text w, view (c.error text w) = view w

theorem Collaborators.KeepsAside.map {β : Type} {c : Collaborators σ κ} {view : σ → α}
    (h : c.KeepsAside view) (f : α → β) : c.KeepsAside fun w => f (view w) where
  keeps := {
    log := fun record w => congrArg f (h.keeps.log record w)
    becomeUser := fun user w => congrArg f (h.keeps.becomeUser user w)
    find := fun name w => congrArg f (h.keeps.find name w)
    spawn := fun plan w => congrArg f (h.keeps.spawn plan w)
    outputs := fun chunk child w => congrArg f (h.keeps.outputs chunk child w)
    warn := fun text w => congrArg f (h.keeps.warn text w) }
  change path w := congrArg f (h.change path w)
  error text w := congrArg f (h.error text w)

namespace Launch

variable {c : Collaborators σ κ} {launcher : Launcher} {req : Request}

/-! ## Steps at the guard -/

/-- How a step treats the guard: it takes it, notes a child in it, frees it, or does nothing about it. -/
inductive AtGuard (c : Collaborators σ κ) (view : σ → α) : InFlight κ → σ → InFlight κ → σ → Prop
  | away {l l' w w'} (hview : view w' = view w) (hheld : l'.holdsGuard = l.holdsGuard) :
      AtGuard c view l w l' w'
  | takes {program dir held w w'} (hidle : c.slot w = .idle)
      (hview : view w' = view (c.setSlot .reserved w)) :
      AtGuard c view ⟨.acquiring program, dir, held⟩ w ⟨.warning program, dir, true⟩ w'
  | notes {child dir held w w' pid} (hpid : c.pid? child = some pid)
      (hview : view w' = view (c.setSlot (.tracking pid) w)) :
      AtGuard c view ⟨.tracking child, dir, held⟩ w ⟨.draining child, dir, held⟩ w'
  | frees {outcome dir w w'} (hview : view w' = view (c.setSlot .idle w)) :
      AtGuard c view ⟨.releasing outcome, dir, true⟩ w ⟨.recording outcome, dir, false⟩ w'

theorem Step.atGuard {view : σ → α} (hview : c.KeepsAside view) {l l' : InFlight κ} {w w' : σ}
    (h : Step c launcher req l w l' w') : AtGuard c view l w l' w' := by
  have hearly := hview.keeps.toKeepsEarly
  cases h with
  | accept | reject | refuse | stay | leave => exact .away rfl rfl
  | switch hswitch => exact .away (switchUser_keeps hearly hswitch) rfl
  | notSwitch hswitch => exact .away (switchUser_keeps hearly hswitch) rfl
  | locateToMove hlocate => exact .away (locate_keeps hearly hlocate) rfl
  | locateToStay hlocate => exact .away (locate_keeps hearly hlocate) rfl
  | notLocate hlocate => exact .away (locate_keeps hearly hlocate) rfl
  | save hsave => exact .away (save_keeps hearly hsave) rfl
  | enter hmove | enterUnsaved hmove =>
    obtain ⟨v, hchange, -, rfl⟩ := move_ok hmove
    have hentered := (congrArg (fun x => view x.2) hchange).symm.trans (hview.change _ w)
    exact .away ((hearly.log _ v).trans hentered) rfl
  | notEnter hmove =>
    obtain ⟨cause, hchange, -⟩ := move_error hmove
    exact .away ((congrArg (fun x => view x.2) hchange).symm.trans (hview.change _ w)) rfl
  | reportSave => exact .away (hview.keeps.warn _ w) rfl
  | acquire hidle => exact .takes hidle (hearly.log _ _)
  | busy => exact .away (hearly.log _ w) rfl
  | warn =>
    refine .away ?_ rfl
    split
    · rfl
    · exact hview.keeps.warn _ w
  | notSpawn hspawn =>
    exact .away ((congrArg (fun x => view x.2) hspawn).symm.trans (hview.keeps.spawn _ w)) rfl
  | spawn hspawn =>
    have hspawned := (congrArg (fun x => view x.2) hspawn).symm.trans (hview.keeps.spawn _ w)
    exact .away ((hearly.log _ _).trans hspawned) rfl
  | track =>
    split
    · rename_i pid hpid
      exact .notes hpid rfl
    · exact .away rfl rfl
  | drain hout =>
    have houtputs := (congrArg (fun x => view x.2) hout).symm.trans (hview.keeps.outputs _ _ w)
    exact .away ((hearly.log _ _).trans ((logAll_keeps hearly _ _).trans houtputs)) rfl
  | restore hrestore => exact .away (restore_keeps hearly hview.change hrestore) rfl
  | notRestore hrestore => exact .away (restore_keeps hearly hview.change hrestore) rfl
  | reportRestore => exact .away (hview.error _ w) rfl
  | release => exact .frees (hearly.log _ _)
  | record => exact .away (hearly.log _ w) rfl

/-- What no call changes is the same after a launch. -/
theorem run_keeps {view : σ → α} (hview : c.KeepsAside view)
    (hslot : ∀ slot w, view (c.setSlot slot w) = view w) (w : σ) :
    view (run c launcher req w).2 = view w := by
  obtain ⟨last, hsteps, -⟩ := @run_steps _ _ c launcher req w
  refine hsteps.keeps (P := fun _ w' => view w' = view w) ?_ rfl
  intro l₁ w₁ l₂ w₂ _ hsame hstep
  refine Eq.trans ?_ hsame
  cases hstep.atGuard hview with
  | away hkept => exact hkept
  | takes _ hkept => exact hkept.trans (hslot _ _)
  | notes _ hkept => exact hkept.trans (hslot _ _)
  | frees hkept => exact hkept.trans (hslot _ _)

/-- Only where a child is created does it matter how. -/
theorem step_of_not_spawning {l : InFlight κ} (h : ∀ program, l.stage ≠ .spawning program)
    (spawn : SpawnPlan → σ → Except IoError κ × σ) (w : σ) :
    step { c with spawn } launcher req l w = step c launcher req l w := by
  obtain ⟨stage, dir, held⟩ := l
  cases stage with
  | spawning program => exact absurd rfl (h program)
  | _ => rfl

theorem spawns_append_of_nil {es fs : List (Event κ)} (h : Event.spawns fs = []) :
    Event.spawns (es ++ fs) = Event.spawns es := by
  rw [Event.spawns_append, h, List.append_nil]

/-- Only in the stage in which a child is created can it be. -/
theorem spawns_stepCalls {l : InFlight κ} (h : ∀ program, l.stage ≠ .spawning program) (w : σ) :
    Event.spawns (stepCalls c launcher req l w) = [] := by
  let barren : Collaborators (σ × List (Event κ)) κ :=
    { c.traced with spawn := fun _ s => (.error (.os 0), s) }
  have hkeeps : barren.KeepsAside fun s => Event.spawns s.2 := {
    keeps := {
      log := fun _ _ => spawns_append_of_nil rfl
      becomeUser := fun _ _ => spawns_append_of_nil rfl
      find := fun _ _ => spawns_append_of_nil rfl
      spawn := fun _ _ => rfl
      outputs := fun _ _ _ => spawns_append_of_nil rfl
      warn := fun _ _ => spawns_append_of_nil rfl }
    change := fun _ _ => spawns_append_of_nil rfl
    error := fun _ _ => spawns_append_of_nil rfl }
  have hsame : step barren launcher req l (w, []) = step c.traced launcher req l (w, []) :=
    step_of_not_spawning h _ _
  rw [stepCalls, ← hsame]
  by_cases hgoing : l.stage.outcome? = none
  · have hguard := (step_spec barren launcher req (w, []) hgoing).atGuard hkeeps
    generalize step barren launcher req l (w, []) = next at hguard
    obtain ⟨l', w', es⟩ := next
    cases hguard with
    | away hview => exact hview
    | takes _ hview => exact hview
    | notes _ hview => exact hview
    | frees hview => exact hview
  · obtain ⟨outcome, hstage⟩ := Stage.eq_finished hgoing
    simp [step, hstage, Event.spawns]

/-! ## What a launch has written into the slot -/

/-- What was written into the slot last. -/
def lastSlot (es : List (Event κ)) : Slot :=
  (Event.slots es).getLast?.getD .idle

/-- The launch that has made these calls holds the guard: what it wrote last is not that it is free. -/
def Holds (es : List (Event κ)) : Prop :=
  lastSlot es ≠ .idle

instance (es : List (Event κ)) : Decidable (Holds es) :=
  inferInstanceAs (Decidable (_ ≠ _))

theorem Approach.not_holds {es : List (Event κ)} {answer : Except ExecError Unit}
    (h : Approach launcher req es answer) : ¬Holds es := by
  simp [Holds, lastSlot, h.quiet.1]

/-- What the holder of the guard has written into its slot: that it is taken, and then the number of the
child it has created. -/
inductive Marks (pid? : κ → Option Nat) (es : List (Event κ)) : List Slot → Prop
  | taken : Marks pid? es [.reserved]
  | noted {plan child pid} (hspawn : .spawn plan (.ok child) ∈ es) (hpid : pid? child = some pid) :
      Marks pid? es [.reserved, .tracking pid]

section

variable {pid? : κ → Option Nat} {es fs : List (Event κ)} {program : Path} {home : Option Path}
variable {outcome : Outcome}

theorem Marks.mono {slots : List Slot} (h : Marks pid? es slots) (hsub : es ⊆ fs) :
    Marks pid? fs slots := by
  cases h with
  | taken => exact .taken
  | noted hspawn hpid => exact .noted (hsub hspawn) hpid

theorem Marks.reserved_mem {slots : List Slot} (h : Marks pid? es slots) : .reserved ∈ slots := by
  cases h <;> exact List.mem_cons_self

theorem Marks.holds (h : Marks pid? es (Event.slots es)) : Holds es := by
  unfold Holds lastSlot
  generalize Event.slots es = slots at h
  cases h <;> nofun

@[simp] theorem acquisition_slots : Event.slots (κ := κ) acquisition = [.reserved] := rfl

@[simp] theorem namedReport_slots : Event.slots (κ := κ) (namedReport req) = [] := by
  unfold namedReport
  split <;> rfl

@[simp] theorem creation_slots (child : κ) : Event.slots (creation req program child) = [] := rfl

@[simp] theorem reading_slots (child : κ) (outputs : Outputs) :
    Event.slots (reading launcher child outputs) = [] := by
  simp [reading, Event.slots]

@[simp] theorem freeing_slots (held : Bool) :
    Event.slots (κ := κ) (freeing held) = if held then [.idle] else [] := by
  cases held <;> rfl

/-- A child that was created may be noted. -/
theorem marks_of_spawn {plan : SpawnPlan} {child : κ} (hspawn : .spawn plan (.ok child) ∈ es) :
    Marks pid? es (.reserved :: Event.slots (childNote pid? child)) := by
  unfold childNote
  split
  · rename_i pid hpid
    exact .noted hspawn hpid
  · exact .taken

theorem ChildCalls.marks (h : ChildCalls pid? launcher req program es outcome) :
    Marks pid? es (.reserved :: Event.slots es) := by
  cases h with
  | notSpawned => exact .taken
  | drained child outputs =>
    have hspawn : Event.spawn (.ofArgv program req.args.toArgv) (.ok child) ∈
        creation req program child ++ childNote pid? child ++ reading launcher child outputs := by
      simp [creation]
    simpa using marks_of_spawn hspawn

/-- Who holds the guard has marked it as taken, by a child of its own if by any. -/
theorem Settled.marks (h : Settled pid? launcher req home true es outcome) :
    Marks pid? es (Event.slots es) := by
  cases h with
  | @held program _ way child _ hready hchild =>
    have hslots : Event.slots (way ++ acquisition ++ namedReport req ++ child) =
        .reserved :: Event.slots child := by
      simp [hready.approach.quiet.1]
    rw [hslots]
    exact hchild.marks.mono (List.subset_append_right _ _)

variable {l : InFlight κ}

theorem Marks.aside (h : Marks pid? es (Event.slots es)) (haside : Aside fs) :
    Marks pid? (es ++ fs) (Event.slots (es ++ fs)) := by
  rw [Event.slots_append, haside.slots, List.append_nil]
  exact h.mono (List.subset_append_left es fs)

theorem Told.marks (h : Told pid? launcher req l es) (hheld : l.holdsGuard = true) :
    Marks pid? es (Event.slots es) := by
  cases h with
  | warning hready | spawning hready | tracking hready =>
    simp [hready.approach.quiet.1, Marks.taken]
  | @draining way program dir child hready =>
    have hslots : Event.slots (way ++ acquisition ++ namedReport req ++
        (creation req program child ++ childNote pid? child)) =
          .reserved :: Event.slots (childNote pid? child) := by
      simp [hready.approach.quiet.1]
    have hspawn : Event.spawn (.ofArgv program req.args.toArgv) (.ok child) ∈ way ++ acquisition ++
        namedReport req ++ (creation req program child ++ childNote pid? child) := by
      simp [creation]
    rw [hslots]
    exact marks_of_spawn hspawn
  | restoring hsettled =>
    obtain rfl : _ = true := hheld
    exact hsettled.marks
  | reportingRestore hsettled =>
    obtain rfl : _ = true := hheld
    exact hsettled.marks.aside (by simp [Aside, Event.isAside])
  | releasing hsettled hback =>
    obtain rfl : _ = true := hheld
    exact hsettled.marks.aside hback.aside
  | _ => cases hheld

/-- Who has freed the guard does not hold it any more, nor does who has never had it. -/
theorem Settled.not_holds {held : Bool} (h : Settled pid? launcher req home held es outcome)
    {back : List (Event κ)} (hback : BackCalls home back) (haside : Aside fs) :
    ¬Holds (es ++ back ++ freeing held ++ fs) := by
  cases held with
  | false =>
    simp only [freeing, Bool.false_eq_true, if_false, List.append_nil]
    exact ((h.approach.append hback.aside).append haside).not_holds
  | true => simp [Holds, lastSlot, haside.slots]

theorem Told.not_holds (h : Told pid? launcher req l es) (hfree : l.holdsGuard = false) :
    ¬Holds es := by
  cases h with
  | validating | switchingUser => simp [Holds, lastSlot, Event.slots]
  | locating _ huser => exact huser.approach.not_holds
  | savingDir hlocated => exact hlocated.approach.not_holds
  | enteringDir hlocated _ hsave => exact (hlocated.approach.append hsave.aside).not_holds
  | reportingSave hlocated _ hsave =>
    exact ((hlocated.approach.append hsave.aside).append (entry_aside _)).not_holds
  | acquiring hready => exact hready.approach.not_holds
  | refused hready => exact (hready.approach.append refusal_aside).not_holds
  | restoring hsettled =>
    obtain rfl : _ = false := hfree
    exact hsettled.approach.not_holds
  | reportingRestore hsettled =>
    obtain rfl : _ = false := hfree
    exact (hsettled.approach.append (by simp [Aside, Event.isAside])).not_holds
  | releasing hsettled hback =>
    obtain rfl : _ = false := hfree
    exact (hsettled.approach.append hback.aside).not_holds
  | recording hsettled hback =>
    have hnothing : Aside (κ := κ) [] := by simp [Aside]
    simpa using hsettled.not_holds hback hnothing
  | @finished _ _ outcome hcourse =>
    cases hcourse with
    | early hearly => simp [Holds, lastSlot, hearly.quiet.1]
    | @settled home held before back _ hsettled hback =>
      have hlogged : Aside (κ := κ) [.log (outcomeRecord outcome)] := by simp [Aside, Event.isAside]
      have hfreed := hsettled.not_holds hback hlogged
      rw [List.append_assoc] at hfreed
      exact hfreed
  | _ => cases hfree

/-- Who notes a child in the guard, or creates one, holds it. -/
theorem Told.held_of_hasChild (h : Told pid? launcher req l es) (hchild : l.stage.hasChild = true) :
    l.holdsGuard = true := by
  cases h with
  | spawning | tracking | draining => rfl
  | _ => cases hchild

/-- Who has finished does not hold the guard. -/
theorem Told.free_of_finished (h : Told pid? launcher req l es) (hdone : l.stage.outcome? ≠ none) :
    l.holdsGuard = false := by
  cases h with
  | finished => rfl
  | _ => exact absurd rfl hdone

/-- Whether a launch under way holds the guard can be told from its calls. -/
theorem Told.holds_iff (h : Told pid? launcher req l es) : Holds es ↔ l.holdsGuard = true := by
  cases hheld : l.holdsGuard with
  | false => simpa using h.not_holds hheld
  | true => simpa using (h.marks hheld).holds

/-! ## Losing, and letting go -/

def isReentrancy : Outcome → Bool
  | .error (.reentrancy _) => true
  | _ => false

theorem exists_of_isReentrancy {outcome : Outcome} (h : isReentrancy outcome = true) :
    ∃ pid, outcome = .error (.reentrancy pid) := by
  unfold isReentrancy at h
  split at h
  · exact ⟨_, rfl⟩
  · cases h

/-- The launch has found the guard taken. -/
def Stage.isLost : Stage κ → Bool
  | .refused => true
  | stage => stage.settled?.any isReentrancy

/-- Who has found the guard taken ends without it. -/
theorem Step.isLost {l' : InFlight κ} {w w' : σ} (h : Step c launcher req l w l' w')
    (hlost : l.stage.isLost = true) : l'.stage.isLost = true := by
  cases h <;> simp_all [Stage.isLost, Stage.settled?, isReentrancy]

theorem Settled.of_isReentrancy {held : Bool} (h : Settled pid? launcher req home held es outcome)
    (hlost : isReentrancy outcome = true) : held = false := by
  obtain ⟨pid, rfl⟩ := exists_of_isReentrancy hlost
  cases h with
  | busy => rfl
  | held _ hchild => rcases hchild.error with ⟨cause, h⟩ | ⟨count, cause, h⟩ <;> cases h

/-- Who has found the guard taken does nothing at it, and creates no child. -/
theorem Told.of_isLost (h : Told pid? launcher req l es) (hlost : l.stage.isLost = true) :
    Event.slots es = [] ∧ Event.spawns es = [] := by
  have hquiet {answer : Except ExecError Unit} (h : Approach launcher req es answer) :
      Event.slots es = [] ∧ Event.spawns es = [] := ⟨h.quiet.1, h.quiet.2.1⟩
  cases h with
  | refused hready => exact hquiet (hready.approach.append refusal_aside)
  | restoring hsettled =>
    obtain rfl := hsettled.of_isReentrancy hlost
    exact hquiet hsettled.approach
  | reportingRestore hsettled =>
    obtain rfl := hsettled.of_isReentrancy hlost
    exact hquiet (hsettled.approach.append (by simp [Aside, Event.isAside]))
  | releasing hsettled hback =>
    obtain rfl := hsettled.of_isReentrancy hlost
    exact hquiet (hsettled.approach.append hback.aside)
  | recording hsettled hback =>
    obtain rfl := hsettled.of_isReentrancy hlost
    exact hquiet ((hsettled.approach.append hback.aside).append (by simp [Aside, freeing]))
  | finished hcourse =>
    obtain ⟨pid, rfl⟩ := exists_of_isReentrancy hlost
    exact ⟨hcourse.of_reentrancy.1, hcourse.of_reentrancy.2.1⟩
  | _ => cases hlost

/-- The child could not be created, or its output has been drained. -/
def IsThrough (es : List (Event κ)) : Prop :=
  (∃ plan cause, .spawn plan (.error cause) ∈ es) ∨
    ∃ chunk child outputs, .drain chunk child outputs ∈ es

theorem IsThrough.mono (h : IsThrough es) (hsub : es ⊆ fs) : IsThrough fs := by
  rcases h with ⟨plan, cause, hspawn⟩ | ⟨chunk, child, outputs, hdrain⟩
  · exact .inl ⟨plan, cause, hsub hspawn⟩
  · exact .inr ⟨chunk, child, outputs, hsub hdrain⟩

theorem ChildCalls.isThrough (h : ChildCalls pid? launcher req program es outcome) : IsThrough es := by
  cases h with
  | notSpawned => exact .inl ⟨_, _, List.mem_cons_self⟩
  | drained child outputs =>
    exact .inr ⟨_, child, outputs, List.mem_append_right _ List.mem_cons_self⟩

/-- Who is about to free the guard is through with its child. -/
theorem Told.isThrough {dir : Option DirectoryContext}
    (h : Told pid? launcher req ⟨.releasing outcome, dir, true⟩ es) : IsThrough es := by
  cases h with
  | releasing hsettled hback =>
    cases hsettled with
    | held hready hchild =>
      exact (hchild.isThrough.mono (List.subset_append_right _ _)).mono (List.subset_append_left _ _)

end

end Launch

end ScriptExec
