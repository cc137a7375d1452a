-- SUMMARY: What the order of a launch's stages means for the guard, for users, for warnings and for the directory.
import ScriptExec.Proofs.Launch.Course
import ScriptExec.Proofs.Multiplexer.Verdict

/-!
# The order of stages

What a launch does is known from the course it follows (`run_course`). The calls before the guard have
nothing to do with the guard, a child, or named arguments (`Event.isAside`), nor have those on the way
back; so everything about these is settled between taking the guard and freeing it.
-/

namespace ScriptExec.Launch

variable {σ κ δ : Type}

/-! ## Calls aside from the guard -/

/-- A call that has nothing to do with users, the guard, a child, or named arguments. -/
def Event.isAside : Event κ → Bool
  | .becomeUser _ _ | .setSlot _ | .spawn _ _ | .drain _ _ _ => false
  | .warn text => text != namedWarning
  | _ => true

/-- Only calls aside. -/
def Aside (es : List (Event κ)) : Prop :=
  ∀ event ∈ es, event.isAside = true

theorem saveWarning_ne_namedWarning (cause : IoError) : saveWarning cause ≠ namedWarning := by
  intro h
  have hshape : saveWarning cause = "pread(): getcwd: " ++ cause.message := rfl
  have hparen : "pread(): getcwd: ".toList[5]? = some '(' := by decide
  have hcolon : namedWarning.toList[5]? = some ':' := by decide
  rw [← h, hshape, String.toList_append, List.getElem?_append_left (by decide), hparen] at hcolon
  cases hcolon

variable {es fs : List (Event κ)}

/-- Calls of one sort are none of another. -/
theorem filterMap_eq_nil_of_forall {α : Type} {sort : Event κ → Bool} {f : Event κ → Option α}
    (h : ∀ event ∈ es, sort event = true) (hf : ∀ event, sort event = true → f event = none) :
    es.filterMap f = [] :=
  List.filterMap_eq_nil_iff.mpr fun event hevent => hf event (h event hevent)

theorem Aside.append (h : Aside es) (h' : Aside fs) : Aside (es ++ fs) := by
  intro event hevent
  rcases List.mem_append.mp hevent with hevent | hevent
  · exact h event hevent
  · exact h' event hevent

theorem Aside.slots (h : Aside es) : Event.slots es = [] := by
  apply filterMap_eq_nil_of_forall h
  intro event haside
  cases event <;> first | rfl | cases haside

theorem Aside.spawns (h : Aside es) : Event.spawns es = [] := by
  apply filterMap_eq_nil_of_forall h
  intro event haside
  cases event <;> first | rfl | cases haside

theorem Aside.requests (h : Aside es) : Event.requests es = [] := by
  apply filterMap_eq_nil_of_forall h
  intro event haside
  cases event <;> first | rfl | cases haside

theorem Aside.warnings (h : Aside es) : namedWarning ∉ Event.warnings es := by
  intro hwarned
  obtain ⟨event, hevent, hnamed⟩ := List.mem_filterMap.mp hwarned
  have haside := h event hevent
  cases event <;> simp_all [Event.isAside]

section

variable {pid? : κ → Option Nat} {launcher : Launcher} {req : Request} {program : Path}
variable {home : Option Path}

theorem LookupCalls.aside {answer : Except ExecError Path} (h : LookupCalls launcher req es answer) :
    Aside es := by
  cases h <;> simp [Aside, Event.isAside]

theorem SaveCalls.aside {saved : Except IoError Path} (h : SaveCalls es saved) : Aside es := by
  cases h <;> simp [Aside, Event.isAside]

theorem saveReport_aside (saved : Except IoError Path) : Aside (κ := κ) (saveReport saved) := by
  cases saved with
  | ok dir => simp [Aside, saveReport]
  | error cause => simp [Aside, saveReport, Event.isAside, saveWarning_ne_namedWarning]

theorem entry_aside (program : Path) : Aside (κ := κ) (entry program) := by
  simp [Aside, entry, Event.isAside]

theorem BackCalls.aside (h : BackCalls home es) : Aside es := by
  cases h <;> simp [Aside, Event.isAside]

/-! ## The way up to the guard -/

/-- Calls for the user that is asked for, and then only calls aside. -/
def Approach (launcher : Launcher) (req : Request) (es : List (Event κ))
    (answer : Except ExecError Unit) : Prop :=
  ∃ u rest, UserCalls launcher req u answer ∧ Aside rest ∧ es = u ++ rest

variable {answer : Except ExecError Unit}

theorem UserCalls.approach (h : UserCalls launcher req es answer) : Approach launcher req es answer :=
  ⟨es, [], h, nofun, (List.append_nil es).symm⟩

theorem Approach.append (h : Approach launcher req es answer) (haside : Aside fs) :
    Approach launcher req (es ++ fs) answer := by
  obtain ⟨u, rest, huser, hrest, rfl⟩ := h
  exact ⟨u, rest ++ fs, huser, hrest.append haside, List.append_assoc u rest fs⟩

theorem Located.approach (h : Located launcher req program es) : Approach launcher req es (.ok ()) := by
  cases h with
  | intro _ huser hlookup => exact huser.approach.append hlookup.aside

theorem Ready.approach (h : Ready launcher req program home es) :
    Approach launcher req es (.ok ()) := by
  cases h with
  | stays hlocated => exact hlocated.approach
  | moves hlocated _ hsave =>
    exact ((hlocated.approach.append hsave.aside).append (entry_aside _)).append (saveReport_aside _)

theorem EarlyFailure.approach {e : ExecError} (h : EarlyFailure launcher req es e) :
    es = [] ∨ ∃ answer, Approach launcher req es answer := by
  cases h with
  | invalid => exact .inl rfl
  | denied _ huser => exact .inr ⟨_, huser.approach⟩
  | missed _ huser hlookup => exact .inr ⟨_, huser.approach.append hlookup.aside⟩
  | barred hlocated _ hsave =>
    exact .inr ⟨_, (hlocated.approach.append hsave.aside).append (by simp [Aside, Event.isAside])⟩

theorem refusal_aside : Aside (κ := κ) refusal := by
  simp [Aside, refusal, Event.isAside]

theorem parting_aside (outcome : Outcome) : Aside (κ := κ) (parting false outcome) := by
  simp [Aside, parting, Event.isAside]

/-- On the way up to the guard, nothing is done about the guard or a child, and nothing said about named
arguments. -/
theorem Approach.quiet (h : Approach launcher req es answer) :
    Event.slots es = [] ∧ Event.spawns es = [] ∧ namedWarning ∉ Event.warnings es := by
  obtain ⟨u, rest, huser, hrest, rfl⟩ := h
  have hwarnings := hrest.warnings
  have hslots := hrest.slots
  have hspawns := hrest.spawns
  cases huser <;> simp_all [Event.slots, Event.spawns, Event.warnings]

theorem EarlyFailure.quiet {e : ExecError} (h : EarlyFailure launcher req es e) :
    Event.slots es = [] ∧ Event.spawns es = [] ∧ namedWarning ∉ Event.warnings es := by
  rcases h.approach with rfl | ⟨answer, happroach⟩
  · exact ⟨rfl, rfl, nofun⟩
  · exact happroach.quiet

end

/-! ## At the guard -/

/-- A call about the guard, a child, or the log. -/
def Event.isGuarded : Event κ → Bool
  | .setSlot _ | .spawn _ _ | .drain _ _ _ | .log _ => true
  | _ => false

/-- Only calls about the guard, a child, or the log. -/
def Guarded (es : List (Event κ)) : Prop :=
  ∀ event ∈ es, event.isGuarded = true

theorem Guarded.append (h : Guarded es) (h' : Guarded fs) : Guarded (es ++ fs) := by
  intro event hevent
  rcases List.mem_append.mp hevent with hevent | hevent
  · exact h event hevent
  · exact h' event hevent

theorem Guarded.warnings (h : Guarded es) : Event.warnings es = [] := by
  apply filterMap_eq_nil_of_forall h
  intro event hguarded
  cases event <;> first | rfl | cases hguarded

theorem Guarded.requests (h : Guarded es) : Event.requests es = [] := by
  apply filterMap_eq_nil_of_forall h
  intro event hguarded
  cases event <;> first | rfl | cases hguarded

section

variable {pid? : κ → Option Nat} {launcher : Launcher} {req : Request} {program : Path}

theorem acquisition_guarded : Guarded (κ := κ) acquisition := by
  simp [Guarded, acquisition, Event.isGuarded]

theorem refusal_guarded : Guarded (κ := κ) refusal := by
  simp [Guarded, refusal, Event.isGuarded]

theorem parting_guarded (held : Bool) (outcome : Outcome) : Guarded (κ := κ) (parting held outcome) := by
  cases held <;> simp [Guarded, parting, Event.isGuarded]

theorem childNote_guarded (child : κ) : Guarded (childNote pid? child) := by
  unfold childNote
  split <;> simp [Guarded, Event.isGuarded]

theorem reading_guarded (child : κ) (outputs : Outputs) : Guarded (reading launcher child outputs) := by
  intro event hevent
  simp only [reading, List.mem_cons, List.mem_append, List.mem_map] at hevent
  rcases hevent with rfl | ⟨record, -, rfl⟩ | rfl | hevent
  · rfl
  · rfl
  · rfl
  · cases hevent

theorem ChildCalls.guarded {outcome : Outcome} (h : ChildCalls pid? launcher req program es outcome) :
    Guarded es := by
  cases h with
  | notSpawned => simp [Guarded, Event.isGuarded]
  | drained child outputs =>
    refine Guarded.append (Guarded.append ?_ (childNote_guarded child)) (reading_guarded child outputs)
    simp [Guarded, creation, Event.isGuarded]

theorem namedReport_warnings :
    Event.warnings (κ := κ) (namedReport req) =
      if req.args.named.isEmpty then [] else [namedWarning] := by
  unfold namedReport
  split <;> rfl

theorem namedReport_requests : Event.requests (κ := κ) (namedReport req) = [] := by
  unfold namedReport
  split <;> rfl

/-! ## Courses -/

variable {outcome : Outcome} {home : Option Path} {held : Bool}

theorem Settled.requests (h : Settled pid? launcher req home held es outcome) :
    ∃ u rest, UserCalls launcher req u (.ok ()) ∧ es = u ++ rest ∧ Event.requests rest = [] := by
  cases h with
  | busy hready =>
    obtain ⟨u, rest, huser, hrest, rfl⟩ := hready.approach
    refine ⟨u, rest ++ refusal, huser, List.append_assoc .., ?_⟩
    rw [Event.requests_append, hrest.requests, refusal_guarded.requests]
    rfl
  | @held _ _ _ child _ hready hchild =>
    obtain ⟨u, rest, huser, hrest, rfl⟩ := hready.approach
    refine ⟨u, rest ++ acquisition ++ namedReport req ++ child, huser, by simp, ?_⟩
    simp [hrest.requests, acquisition_guarded.requests, namedReport_requests, hchild.guarded.requests]

/-- A launch asks first, if at all, to become another user, and has been allowed to before it creates a
child. -/
theorem Course.requests (h : Course pid? launcher req es outcome) :
    es = [] ∨ ∃ answer u rest, UserCalls launcher req u answer ∧ es = u ++ rest ∧
      Event.requests rest = [] ∧ (Event.spawns es ≠ [] → answer = .ok ()) := by
  cases h with
  | early hearly =>
    rcases hearly.approach with rfl | ⟨answer, u, rest, huser, hrest, rfl⟩
    · exact .inl rfl
    · exact .inr ⟨answer, u, rest, huser, rfl, hrest.requests, fun hspawns =>
        absurd hearly.quiet.2.1 hspawns⟩
  | @settled _ held _ back _ hsettled hback =>
    obtain ⟨u, rest, huser, rfl, hrest⟩ := hsettled.requests
    refine .inr ⟨_, u, rest ++ back ++ parting held outcome, huser, by simp, ?_, fun _ => rfl⟩
    simp [hrest, hback.aside.requests, (parting_guarded held outcome).requests]

theorem Course.becomeUser (h : Course pid? launcher req es outcome) {user : String}
    (huser : req.user = some user) :
    if launcher.privilegesDropped then Event.requests es = []
    else Event.spawns es ≠ [] → ∃ rest, es = .becomeUser user (.ok ()) :: rest := by
  rcases h.requests with rfl | ⟨answer, u, rest, hcalls, rfl, hrest, hgranted⟩
  · split
    · rfl
    · exact fun hspawns => absurd rfl hspawns
  · rw [Event.requests_append, hrest]
    cases hcalls with
    | notAsked hnone => rw [huser] at hnone; cases hnone
    | ignored _ hdropped => simp [hdropped, Event.requests]
    | granted hsome hkept =>
      obtain rfl : user = _ := Option.some.inj (huser.symm.trans hsome)
      simp [hkept]
    | denied _ hkept =>
      simp only [hkept, Bool.false_eq_true, if_false]
      intro hspawns
      cases hgranted hspawns

theorem validate_error {e : ExecError} (h : req.validate = .error e) :
    ∃ text, e = .validation text := by
  unfold Request.validate at h
  split at h
  · cases h
    exact ⟨_, rfl⟩
  · split at h
    · cases h
      exact ⟨_, rfl⟩
    · cases h

theorem EarlyFailure.ne_reentrancy {e : ExecError} (h : EarlyFailure launcher req es e)
    (pid : Option Nat) : e ≠ .reentrancy pid := by
  cases h with
  | invalid hinvalid =>
    obtain ⟨text, rfl⟩ := validate_error hinvalid
    nofun
  | denied _ huser =>
    cases huser
    nofun
  | missed _ _ hlookup =>
    cases hlookup
    unfold missError
    split <;> nofun
  | barred => nofun

/-- A child leads to no other error than that it was not created, or that its output was not read to the
end. -/
theorem ChildCalls.error {e : ExecError} (h : ChildCalls pid? launcher req program es (.error e)) :
    (∃ cause, e = .spawn req.cmd cause) ∨ ∃ count cause, e = .capture count cause := by
  generalize hend : (Except.error e : Outcome) = outcome at h
  cases h with
  | notSpawned =>
    cases hend
    exact .inl ⟨_, rfl⟩
  | drained child outputs =>
    obtain ⟨side, cause, -, rfl⟩ := Multiplexer.drain_error hend.symm
    exact .inr ⟨_, cause, rfl⟩

/-- A launch that finds the guard taken does nothing at it. -/
theorem Settled.approach (h : Settled pid? launcher req home false es outcome) :
    Approach launcher req es (.ok ()) := by
  cases h with
  | busy hready => exact hready.approach.append refusal_aside

theorem Settled.approach_end (h : Settled pid? launcher req home false es outcome)
    {back : List (Event κ)} (hback : BackCalls home back) :
    Approach launcher req (es ++ back ++ parting false outcome) (.ok ()) :=
  (h.approach.append hback.aside).append (parting_aside outcome)

/-- A launch that finds the guard taken creates no child, leaves the guard alone, and says nothing about
named arguments. -/
theorem Course.of_reentrancy {pid : Option Nat}
    (h : Course pid? launcher req es (.error (.reentrancy pid))) :
    Event.slots es = [] ∧ Event.spawns es = [] ∧ namedWarning ∉ Event.warnings es := by
  cases h with
  | early hearly => exact absurd rfl (hearly.ne_reentrancy pid)
  | @settled _ held _ _ _ hsettled hback =>
    cases held with
    | false => exact (hsettled.approach_end hback).quiet
    | true =>
      cases hsettled with
      | held _ hchild => rcases hchild.error with ⟨cause, h⟩ | ⟨count, cause, h⟩ <;> cases h

/-- The warning about named arguments is given once if the guard was taken and there are any, and else not
at all. -/
theorem Course.namedWarning_count (h : Course pid? launcher req es outcome) :
    (Event.warnings es).count namedWarning =
      if .reserved ∈ Event.slots es ∧ req.args.named.isEmpty = false then 1 else 0 := by
  have hquiet {fs : List (Event κ)} (h : Event.slots fs = [] ∧ Event.spawns fs = [] ∧
      namedWarning ∉ Event.warnings fs) : (Event.warnings fs).count namedWarning =
        if .reserved ∈ Event.slots fs ∧ req.args.named.isEmpty = false then 1 else 0 := by
    obtain ⟨hslots, -, hwarnings⟩ := h
    simp [hslots, List.count_eq_zero_of_not_mem hwarnings]
  cases h with
  | early hearly => exact hquiet hearly.quiet
  | @settled home held _ back _ hsettled hback =>
    cases held with
    | false => exact hquiet (hsettled.approach_end hback).quiet
    | true =>
      have hbehind : Event.warnings (κ := κ) (parting true outcome) = [] :=
        (parting_guarded true outcome).warnings
      cases hsettled with
      | held hready hchild =>
        have hbefore := List.count_eq_zero_of_not_mem hready.approach.quiet.2.2
        have hafter := List.count_eq_zero_of_not_mem hback.aside.warnings
        simp only [Event.warnings_append, Event.slots_append, List.count_append, hbefore, hafter, hbehind,
          hchild.guarded.warnings, acquisition_guarded.warnings, namedReport_warnings]
        cases req.args.named.isEmpty <;> simp [acquisition, Event.slots]

/-! ## Failures before the guard -/

theorem Located.changes (h : Located launcher req program es) : Event.changes es = [] := by
  cases h with
  | intro _ huser hlookup => cases huser <;> cases hlookup <;> rfl

/-- A launch that fails before the guard has not gone anywhere. -/
theorem EarlyFailure.changes {e : ExecError} (h : EarlyFailure launcher req es e) :
    Event.changes es = [] ∨ ∃ dir cause, Event.changes es = [(dir, .error cause)] := by
  cases h with
  | invalid => exact .inl rfl
  | denied _ huser =>
    cases huser
    exact .inl rfl
  | missed _ huser hlookup =>
    cases hlookup
    cases huser <;> exact .inl rfl
  | @barred way s program _ cause hlocated _ hsave =>
    refine .inr ⟨Path.containingDir program, cause, ?_⟩
    have hway : Event.changes way = [] := hlocated.changes
    simp only [Event.changes, List.filterMap_append] at hway ⊢
    rw [hway]
    cases hsave <;> rfl

/-- Errors that tell by themselves that the guard was not reached. -/
def isEarly : ExecError → Bool
  | .validation _ | .privilegeDrop _ | .resolution _ | .directory _ _ => true
  | .reentrancy _ | .spawn _ _ | .capture _ _ => false

theorem Course.early_of_isEarly {e : ExecError} (h : Course pid? launcher req es (.error e))
    (hearly : isEarly e = true) : EarlyFailure launcher req es e := by
  cases h with
  | early h => exact h
  | settled hsettled =>
    cases hsettled with
    | busy => cases hearly
    | held _ hchild => rcases hchild.error with ⟨cause, rfl⟩ | ⟨count, cause, rfl⟩ <;> cases hearly

theorem EarlyFailure.of_validation {text : String} (h : EarlyFailure launcher req es (.validation text)) :
    req.validate = .error (.validation text) := by
  generalize hend : ExecError.validation text = e at h
  cases h with
  | invalid hinvalid => exact hinvalid
  | denied _ huser =>
    cases huser
    cases hend
  | missed _ _ hlookup =>
    cases hlookup
    unfold missError at hend
    split at hend <;> cases hend
  | barred => cases hend

end

/-! ## Launches -/

variable {c : Collaborators σ κ} {launcher : Launcher} {req : Request} {w : σ}

theorem run_of_invalid {e : ExecError} (h : req.validate = .error e) :
    run c launcher req w = (.error e, w) := by
  rw [run, complete_of_step rfl]
  simp only [step, h]
  exact complete_of_finished rfl

/-- A launch that is about to warn has taken the guard. -/
theorem acquired_of_warning {l : InFlight κ} {w' : σ} {program : Path}
    (h : Steps c launcher req {} w l w') (hstage : l.stage = .warning program) :
    .reserved ∈ Event.slots (trace c launcher req w) := by
  obtain ⟨fs, htraced⟩ := h.traced []
  have htold := htraced.told
  obtain ⟨more, hmore⟩ := htraced.calls_of_trace
  rw [← hmore, Event.slots_append]
  refine List.mem_append_left _ ?_
  obtain ⟨_, dir, held⟩ := l
  obtain rfl : _ = Stage.warning program := hstage
  cases htold
  simp [acquisition, Event.slots]

/-- At the guard, its slot decides: a launch that finds it idle takes it, and any other one has failed. -/
theorem run_of_acquiring (hslot : KeepsSlot c) {l₁ : InFlight κ} {w₁ : σ} {program : Path}
    (hsteps : Steps c launcher req {} w l₁ w₁) (hstage : l₁.stage = .acquiring program) :
    if c.slot w₁ = .idle then .reserved ∈ Event.slots (trace c launcher req w)
    else (run c launcher req w).1 = .error (.reentrancy (c.slot w₁).trackedPid?) := by
  obtain ⟨_, dir, held⟩ := l₁
  obtain rfl : _ = Stage.acquiring program := hstage
  split
  · rename_i hidle
    have hwarning : (step c launcher req ⟨.acquiring program, dir, held⟩ w₁).1.stage = .warning program := by
      simp [step, hidle, Slot.acquire?]
    exact acquired_of_warning (hsteps.tail rfl) hwarning
  · rename_i hbusy
    have hrefused : (c.slot w₁).acquire? = none := by
      cases hslot : c.slot w₁ <;> first | exact absurd hslot hbusy | rfl
    have hkept : c.slot (c.log (guardRecord .debug ["state"] "execution guard busy") w₁) = c.slot w₁ :=
      hslot.keeps.log _ w₁
    rw [run, hsteps.complete_eq, complete_of_step rfl]
    simp only [step, hrefused, InFlight.goTo]
    rw [complete_of_step rfl]
    exact complete_of_settled (by simp [step, InFlight.goTo, Stage.settled?, hkept]) _

/-- A launch that fails before the guard leaves the working directory as it was. -/
theorem cwd_of_earlyFailure {cwd : σ → δ} (hdir : KeepsDir c cwd) {e : ExecError}
    (h : EarlyFailure launcher req (trace c launcher req w) e) :
    cwd (run c launcher req w).2 = cwd w := by
  have hjourney := @run_journey _ _ _ c launcher req cwd hdir w
  have hchanges := h.changes
  generalize cwd (run c launcher req w).2 = here at hjourney
  generalize Event.changes (trace c launcher req w) = changes at hjourney hchanges
  generalize Event.errors (trace c launcher req w) = errors at hjourney
  cases hjourney with
  | stayed => rfl
  | refused => rfl
  | unsaved | back | stuck => simp at hchanges

/-- The stages of a launch come in one order, and the first of them that fails gives the outcome. So an
invalid request has no effect; no child is created for a user before becoming that user was allowed,
and that is not asked for where privileges were dropped for the whole process; what fails before
the guard leaves the guard and the directory alone; and at the guard it is settled whether there can
be a child, and a warning about named arguments. -/
theorem launch_keeps_order (c : Collaborators σ κ) (launcher : Launcher) (req : Request) (cwd : σ → δ)
    (hslot : KeepsSlot c) (hdir : KeepsDir c cwd) (w : σ) :
    let es := trace c launcher req w
    let outcome := (run c launcher req w).1
    let last := (run c launcher req w).2
    Course c.pid? launcher req es outcome ∧
    (∀ l₁ w₁ program, Steps c launcher req {} w l₁ w₁ → l₁.stage = .acquiring program →
      if c.slot w₁ = .idle then .reserved ∈ Event.slots es
      else outcome = .error (.reentrancy (c.slot w₁).trackedPid?)) ∧
    (∀ e, req.validate = .error e → outcome = .error e ∧ es = [] ∧ last = w) ∧
    (∀ text, outcome = .error (.validation text) → req.validate = .error (.validation text)) ∧
    (∀ user, req.user = some user →
      if launcher.privilegesDropped then Event.requests es = []
      else Event.spawns es ≠ [] → ∃ rest, es = .becomeUser user (.ok ()) :: rest) ∧
    (∀ e, outcome = .error e → isEarly e = true ∨ EarlyFailure launcher req es e →
      Event.slots es = [] ∧ Event.spawns es = [] ∧ c.slot last = c.slot w ∧ cwd last = cwd w) ∧
    (∀ pid, outcome = .error (.reentrancy pid) →
      Event.slots es = [] ∧ Event.spawns es = [] ∧ namedWarning ∉ Event.warnings es) ∧
    (Event.warnings es).count namedWarning =
      if .reserved ∈ Event.slots es ∧ req.args.named.isEmpty = false then 1 else 0 := by
  intro es outcome last
  have hcourse : Course c.pid? launcher req es outcome := run_course c launcher req w
  refine ⟨hcourse, ?_, ?_, ?_, ?_, ?_, ?_, hcourse.namedWarning_count⟩
  · intro l₁ w₁ program hsteps hstage
    exact run_of_acquiring hslot hsteps hstage
  · intro e hinvalid
    have hrun := @run_of_invalid _ _ c launcher req w e hinvalid
    have htraced := @run_of_invalid _ _ c.traced launcher req (w, []) e hinvalid
    refine ⟨congrArg Prod.fst hrun, ?_, congrArg Prod.snd hrun⟩
    exact congrArg (fun x => x.2.2) htraced
  · intro text hinvalid
    rw [hinvalid] at hcourse
    exact (hcourse.early_of_isEarly rfl).of_validation
  · intro user huser
    exact hcourse.becomeUser huser
  · intro e he hearly
    have hfailed : EarlyFailure launcher req es e := by
      rcases hearly with hearly | hfailed
      · rw [he] at hcourse
        exact hcourse.early_of_isEarly hearly
      · exact hfailed
    exact ⟨hfailed.quiet.1, hfailed.quiet.2.1, run_slot hslot w, cwd_of_earlyFailure hdir hfailed⟩
  · intro pid hbusy
    rw [hbusy] at hcourse
    exact hcourse.of_reentrancy

/-- A launch for a user, with an argument that has a name. -/
theorem launch_keeps_order_of_user :
    let req : Request :=
      { cmd := "/bin/id", args := { named := ["user"] }, changeDir := true, user := some "nobody" }
    let es := trace (.plain default) {} req (.idle, utf8 "/work")
    Event.slots es = [.reserved, .tracking 1000, .idle] ∧
      (Event.warnings es).count namedWarning = 1 ∧
      ∃ rest, es = .becomeUser "nobody" (.ok ()) :: rest := by
  intro req es
  have hslots : Event.slots es = [.reserved, .tracking 1000, .idle] := by decide +kernel
  have hspawned : (Event.spawns es).length = 1 := by decide +kernel
  obtain ⟨-, -, -, -, huser, -, -, hcount⟩ := launch_keeps_order (.plain default) {} req Prod.snd
    (plain_keepsSlot default) (plain_keepsDir default) (.idle, utf8 "/work")
  refine ⟨hslots, ?_, huser "nobody" rfl fun hnone => ?_⟩
  · exact hcount.trans (by rw [hslots]; decide)
  · rw [hnone] at hspawned
    cases hspawned

end ScriptExec.Launch
