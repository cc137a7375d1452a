-- SUMMARY: What named arguments do to a launch: they add one warning to its calls, and nothing else.
import ScriptExec.Proofs.Launch.Holding
import ScriptExec.Proofs.Launch.Requests

/-!
# Arguments of launches

A launch that takes the guard hands one plan to the system, made of the program that it has found and of its
argument vector (`spawns_of_acquired`). The way to the guard, and whether it is taken, is the same whatever the
arguments are (`Steps.withArgs`). Two requests that differ only in whether they have named arguments go the same way but
for one warning, right after the guard is taken (`trace_of_named`); what the warning does to the world is up to a
relation that all calls keep.
-/

namespace ScriptExec

/-- Two requests differ at most in their arguments. -/
structure Request.SameButArgs (req req' : Request) : Prop where
  cmd : req.cmd = req'.cmd
  changeDir : req.changeDir = req'.changeDir
  user : req.user = req'.user

/-- Two requests differ at most in their named arguments, and in holes among the other ones. -/
structure Request.SameButNamed (req req' : Request) : Prop extends req.SameButArgs req' where
  argv : req.args.toArgv = req'.args.toArgv

namespace Launch

variable {σ κ : Type} {c : Collaborators σ κ} {launcher : Launcher} {req req' : Request}

/-! ## The plan of a launch -/

/-- A plan that was handed to the system was so at the stage for that. -/
theorem Steps.spawning_of_mem {w : σ} {l : InFlight κ} {s : σ × List (Event κ)}
    (h : Steps c.traced launcher req {} (w, []) l s) {plan : SpawnPlan} {answer : Except IoError κ}
    (hplan : (plan, answer) ∈ Event.spawns s.2) :
    ∃ l₁ w₁ program, Steps c launcher req {} w l₁ w₁ ∧ l₁.stage = .spawning program ∧
      plan = .ofArgv program req.args.toArgv ∧ answer = (c.spawn plan w₁).1 := by
  induction h with
  | refl => cases hplan
  | @tail l₁ s₁ hsteps hgoing ih =>
    rw [show s₁ = (s₁.1, s₁.2) from rfl, step_traced, Event.spawns_append] at hplan
    rcases List.mem_append.mp hplan with hbefore | hnow
    · exact ih hbefore
    · by_cases hstage : ∃ program, l₁.stage = .spawning program
      · obtain ⟨program, hstage⟩ := hstage
        refine ⟨l₁, s₁.1, program, hsteps.untraced, hstage, ?_⟩
        obtain ⟨_, dir, held⟩ := l₁
        obtain rfl : _ = Stage.spawning program := hstage
        rcases hspawn : c.spawn (.ofArgv program req.args.toArgv) s₁.1 with ⟨_ | child, w'⟩ <;>
          simp only [stepCalls, step, Collaborators.traced, hspawn, Event.spawns] at hnow <;>
          obtain ⟨rfl, rfl⟩ := Prod.mk.inj (List.mem_singleton.mp hnow) <;> exact ⟨rfl, by rw [hspawn]⟩
      · rw [spawns_stepCalls (not_exists.mp hstage)] at hnow
        cases hnow

section

variable {pid? : κ → Option Nat} {home : Option Path} {es : List (Event κ)} {outcome : Outcome}

theorem ChildCalls.spawns {program : Path} (h : ChildCalls pid? launcher req program es outcome) :
    ∃ answer, Event.spawns es = [(.ofArgv program req.args.toArgv, answer)] := by
  cases h with
  | @notSpawned cause => exact ⟨.error cause, rfl⟩
  | drained child outputs =>
    have hnote : Event.spawns (childNote pid? child) = [] := by
      unfold childNote
      split <;> rfl
    have hreading : Event.spawns (reading launcher child outputs) = [] := by
      simp [reading, Event.spawns]
    refine ⟨.ok child, ?_⟩
    rw [Event.spawns_append, Event.spawns_append, hnote, hreading]
    rfl

theorem Course.spawns_of_acquired (h : Course pid? launcher req es outcome) (hacquired : .reserved ∈ Event.slots es) :
    ∃ plan answer, Event.spawns es = [(plan, answer)] := by
  cases h with
  | early hearly =>
    rw [hearly.quiet.1] at hacquired
    cases hacquired
  | @settled _ held _ back _ hsettled hback =>
    cases hsettled with
    | @busy _ _ way pid hready =>
      have hquiet : Approach launcher req (way ++ refusal ++ back ++ parting false (.error (.reentrancy pid)))
          (.ok ()) :=
        ((hready.approach.append refusal_aside).append hback.aside).append (parting_aside _)
      rw [hquiet.quiet.1] at hacquired
      cases hacquired
    | @held program _ way child _ hready hchild =>
      obtain ⟨answer, hspawns⟩ := hchild.spawns
      refine ⟨.ofArgv program req.args.toArgv, answer, ?_⟩
      have hnamed : Event.spawns (κ := κ) (namedReport req) = [] := by
        unfold namedReport
        split <;> rfl
      rw [Event.spawns_append, Event.spawns_append, Event.spawns_append, Event.spawns_append, Event.spawns_append,
        hready.approach.quiet.2.1, hnamed, hspawns, hback.aside.spawns]
      rfl

end

/-- A launch that takes the guard hands one plan to the system: the program it has found, with the arguments it
was given. -/
theorem spawns_of_acquired {w : σ} (h : .reserved ∈ Event.slots (trace c launcher req w)) :
    ∃ l₁ w₁ program, Steps c launcher req {} w l₁ w₁ ∧ l₁.stage = .spawning program ∧
      Event.spawns (trace c launcher req w) =
        [(.ofArgv program req.args.toArgv, (c.spawn (.ofArgv program req.args.toArgv) w₁).1)] := by
  obtain ⟨plan, answer, hspawns⟩ := (run_course c launcher req w).spawns_of_acquired h
  obtain ⟨last, hsteps, -⟩ := @run_steps _ _ c.traced launcher req (w, [])
  have hmem : (plan, answer) ∈ Event.spawns (run c.traced launcher req (w, [])).2.2 := by
    rw [show (run c.traced launcher req (w, [])).2.2 = trace c launcher req w from rfl, hspawns]
    exact List.mem_singleton_self _
  obtain ⟨l₁, w₁, program, hsteps₁, hstage, rfl, rfl⟩ := hsteps.spawning_of_mem hmem
  exact ⟨l₁, w₁, program, hsteps₁, hstage, hspawns⟩

/-- A launch that asks for no child does not come to where one is created. -/
theorem Steps.childless_of_spawns {l : InFlight κ} {w w' : σ} (hsteps : Steps c launcher req {} w l w')
    (h : Event.spawns (trace c launcher req w) = []) : l.stage.hasChild = false := by
  cases hchild : l.stage.hasChild with
  | false => rfl
  | true =>
    obtain ⟨fs, htraced⟩ := hsteps.traced []
    have hmarks : Marks c.pid? fs (Event.slots fs) :=
      htraced.told.marks (htraced.told.held_of_hasChild hchild)
    obtain ⟨more, hmore⟩ := htraced.calls_of_trace
    have hacquired : .reserved ∈ Event.slots (trace c launcher req w) := by
      rw [← hmore, Event.slots_append]
      exact List.mem_append_left _ hmarks.reserved_mem
    obtain ⟨_, _, _, _, _, honce⟩ := spawns_of_acquired hacquired
    rw [h] at honce
    cases honce

/-! ## The way to the guard -/

/-- Whether a launch is about to tell of named arguments. -/
def Stage.isWarning : Stage κ → Bool
  | .warning _ => true
  | _ => false

theorem step_congr_of_args (h : req.SameButArgs req') {l : InFlight κ} (hwarning : l.stage.isWarning = false)
    (hspawning : ∀ program, l.stage ≠ .spawning program) (w : σ) :
    step c launcher req l w = step c launcher req' l w := by
  obtain ⟨stage, dir, held⟩ := l
  cases stage with
  | warning program => cases hwarning
  | spawning program => exact absurd rfl (hspawning program)
  | _ => simp only [step, validate_congr h.cmd, switchUser_congr h.user, locate_congr h.cmd h.changeDir, h.changeDir]

/-- What a launch comes to before it warns, it comes to with any arguments. -/
theorem Steps.withArgs (h : req.SameButArgs req') {l : InFlight κ} {w w' : σ} {program : Path}
    (hsteps : Steps c launcher req {} w l w') (hrank : (Stage.warning program : Stage κ).rank ≤ l.stage.rank) :
    Steps c launcher req' {} w l w' := by
  induction hsteps with
  | refl => exact .refl
  | @tail l₁ w₁ _ hgoing ih =>
    have hbefore := Nat.lt_of_le_of_lt hrank (step_rank_lt c launcher req l₁ w₁ hgoing)
    have hwarning : l₁.stage.isWarning = false := by
      cases hstage : l₁.stage with
      | warning => simp [hstage, Stage.rank] at hbefore
      | _ => rfl
    have hspawning : ∀ program, l₁.stage ≠ .spawning program := by
      intro program hstage
      simp [hstage, Stage.rank] at hbefore
    rw [step_congr_of_args h hwarning hspawning]
    exact (ih (Nat.le_of_lt hbefore)).tail hgoing

/-- Before a launch creates a child, it is about to warn. -/
theorem Steps.warning_of_spawning {l : InFlight κ} {w w' : σ} {program : Path}
    (h : Steps c launcher req {} w l w') (hstage : l.stage = .spawning program) :
    ∃ l₁ w₁, Steps c launcher req {} w l₁ w₁ ∧ l₁.stage = .warning program := by
  cases h with
  | refl => cases hstage
  | @tail l₁ w₁ hsteps hgoing =>
    refine ⟨l₁, w₁, hsteps, ?_⟩
    have hstep := step_spec c launcher req w₁ hgoing
    generalize step c launcher req l₁ w₁ = next at hstep hstage
    obtain ⟨⟨stage, dir, held⟩, w₂⟩ := next
    obtain rfl : stage = .spawning program := hstage
    dsimp only at hstep
    cases hstep
    rfl

/-- Whether the guard is taken does not depend on the arguments. -/
theorem acquired_congr (h : req.SameButArgs req') {w : σ}
    (hacquired : .reserved ∈ Event.slots (trace c launcher req w)) :
    .reserved ∈ Event.slots (trace c launcher req' w) := by
  obtain ⟨l, w', program, hsteps, hstage, -⟩ := spawns_of_acquired hacquired
  obtain ⟨l₁, w₁, hsteps₁, hstage₁⟩ := hsteps.warning_of_spawning hstage
  exact acquired_of_warning (hsteps₁.withArgs h (Nat.le_of_eq (congrArg Stage.rank hstage₁).symm)) hstage₁

/-! ## Named arguments -/

theorem step_congr_of_not_warning (h : req.SameButNamed req') {l : InFlight κ} (hstage : l.stage.isWarning = false)
    (w : σ) : step c launcher req l w = step c launcher req' l w := by
  by_cases hspawning : ∃ program, l.stage = .spawning program
  · obtain ⟨program, hspawning⟩ := hspawning
    unfold step
    simp only [hspawning, h.argv, h.cmd]
  · exact step_congr_of_args h.toSameButArgs hstage (not_exists.mp hspawning) w

/-- Up to the warning, launches that differ in named arguments are one launch. -/
theorem advance_isWarning_congr (h : req.SameButNamed req') (l : InFlight κ) (w : σ) :
    advance c launcher req Stage.isWarning l w = advance c launcher req' Stage.isWarning l w := by
  fun_induction advance c launcher req Stage.isWarning l w with
  | case1 l w hstop => rw [advance, if_pos hstop]
  | case2 l w hstop hgoing ih =>
    rw [ih, step_congr_of_not_warning h (by simpa using hstop)]
    conv => rhs; rw [advance, if_neg hstop, dif_pos hgoing]
  | case3 l w hstop hdone => rw [advance, if_neg hstop, dif_neg hdone]

/-- From behind the warning on, they are one launch again. -/
theorem complete_congr_of_rank (h : req.SameButNamed req') {program : Path} {l : InFlight κ}
    (hrank : l.stage.rank < (Stage.warning program : Stage κ).rank) (w : σ) :
    complete c launcher req l w = complete c launcher req' l w := by
  induction hdepth : l.stage.rank using Nat.strongRecOn generalizing l w with
  | _ depth ih =>
    by_cases hgoing : l.stage.outcome? = none
    · have hstage : l.stage.isWarning = false := by
        cases hstage : l.stage with
        | warning => simp [hstage, Stage.rank] at hrank
        | _ => rfl
      have hlt := step_rank_lt c launcher req l w hgoing
      rw [complete_of_step hgoing, complete_of_step hgoing, ← step_congr_of_not_warning h hstage]
      exact ih _ (hdepth ▸ hlt) (Nat.lt_trans hlt hrank) _ rfl
    · obtain ⟨outcome, hstage⟩ := Stage.eq_finished hgoing
      rw [complete_of_finished hstage, complete_of_finished hstage]

/-- An advance ends where it is to stop, or at the end. -/
theorem advance_stop (c : Collaborators σ κ) (launcher : Launcher) (req : Request) (stop : Stage κ → Bool)
    (l : InFlight κ) (w : σ) :
    stop (advance c launcher req stop l w).1.stage = true ∨
      ∃ outcome, (advance c launcher req stop l w).1.stage = .finished outcome := by
  fun_induction advance c launcher req stop l w with
  | case1 l w hstop => exact .inl hstop
  | case2 l w hstop hgoing ih => exact ih
  | case3 l w hstop hdone => exact .inr (Stage.eq_finished hdone)

/-- Launches of which one has named arguments and the other one has none are one launch, or part at the warning
and go on alike. -/
theorem run_of_named {R : σ → σ → σ → Prop} (hagree : ∀ w₁, Collaborators.AgreeFully (R w₁) c c)
    (hwarned : ∀ w₁, R w₁ w₁ (c.warn namedWarning w₁)) (h : req.SameButNamed req')
    (hplain : req.args.named.isEmpty = true) (hnamed : req'.args.named.isEmpty = false) (w : σ) :
    run c launcher req w = run c launcher req' w ∨
      ∃ l₁ w₁ program, Steps c launcher req {} w l₁ w₁ ∧ l₁.stage = .warning program ∧
        Alike (R w₁) (run c launcher req w) (run c launcher req' w) := by
  have hsteps : Steps c launcher req {} w _ _ := advance_steps Stage.isWarning {} w
  have hsteps' : Steps c launcher req' {} w _ _ := advance_steps Stage.isWarning {} w
  have hend := advance_stop c launcher req Stage.isWarning {} w
  rw [← advance_isWarning_congr h] at hsteps'
  generalize advance c launcher req Stage.isWarning {} w = reached at hsteps hsteps' hend
  obtain ⟨⟨stage, dir, held⟩, w₁⟩ := reached
  rw [run, run, hsteps.complete_eq, hsteps'.complete_eq]
  rcases hend with hstop | ⟨outcome, hstage⟩
  · right
    cases stage with
    | warning program =>
      refine ⟨_, w₁, program, hsteps, rfl, ?_⟩
      have hsilent : complete c launcher req ⟨.warning program, dir, held⟩ w₁ =
          complete c launcher req ⟨.spawning program, dir, held⟩ w₁ := by
        rw [complete_of_step rfl]
        simp only [step, InFlight.goTo, hplain, if_true]
      have hwarning : complete c launcher req' ⟨.warning program, dir, held⟩ w₁ =
          complete c launcher req' ⟨.spawning program, dir, held⟩ (c.warn namedWarning w₁) := by
        rw [complete_of_step rfl]
        simp only [step, InFlight.goTo, hnamed, Bool.false_eq_true, if_false]
      have hbehind : (InFlight.mk (Stage.spawning program : Stage κ) dir held).stage.rank <
          (Stage.warning program : Stage κ).rank := Nat.lt_succ_self 8
      dsimp only
      rw [hsilent, hwarning, ← complete_congr_of_rank h hbehind]
      exact complete_alike launcher req (hagree w₁) _ (hwarned w₁)
    | _ => cases hstop
  · left
    rw [complete_of_finished hstage, complete_of_finished hstage]

/-! ## Calls of such launches -/

/-- Related worlds, and the same calls since there were `es` and `fs`. -/
def Since (R : σ → σ → Prop) (es fs : List (Event κ)) (s s' : σ × List (Event κ)) : Prop :=
  R s.1 s'.1 ∧ ∃ more, s.2 = es ++ more ∧ s'.2 = fs ++ more

theorem Since.note {R : σ → σ → Prop} {es fs : List (Event κ)} {s s' : σ × List (Event κ)} (h : Since R es fs s s')
    {w w' : σ} (hw : R w w') {event event' : Event κ} (hevent : event = event') :
    Since R es fs (w, s.2 ++ [event]) (w', s'.2 ++ [event']) := by
  obtain ⟨-, more, hes, hfs⟩ := h
  subst hevent
  refine ⟨hw, more ++ [event], ?_, ?_⟩
  · rw [hes, List.append_assoc]
  · rw [hfs, List.append_assoc]

/-- Collaborators that agree make the same calls. -/
theorem agree_since {R : σ → σ → Prop} (h : Collaborators.AgreeFully R c c) (es fs : List (Event κ)) :
    Collaborators.AgreeFully (Since R es fs) c.traced c.traced where
  current hs := h.current hs.1
  change path _ _ hs := by
    obtain ⟨hanswer, hw⟩ := h.change path hs.1
    exact ⟨hanswer, hs.note hw (congrArg (Event.change path) hanswer)⟩
  log record _ _ hs := hs.note (h.log record hs.1) rfl
  becomeUser user _ _ hs := by
    obtain ⟨hanswer, hw⟩ := h.becomeUser user hs.1
    exact ⟨hanswer, hs.note hw (congrArg (Event.becomeUser user) hanswer)⟩
  find name _ _ hs := by
    obtain ⟨hanswer, hw⟩ := h.find name hs.1
    exact ⟨hanswer, hs.note hw (congrArg (Event.find name) hanswer)⟩
  slot hs := h.slot hs.1
  setSlot slot _ _ hs := hs.note (h.setSlot slot hs.1) rfl
  error text _ _ hs := hs.note (h.error text hs.1) rfl
  warn text _ _ hs := hs.note (h.warn text hs.1) rfl
  spawn plan _ _ hs := by
    obtain ⟨hanswer, hw⟩ := h.spawn plan hs.1
    exact ⟨hanswer, hs.note hw (congrArg (Event.spawn plan) hanswer)⟩
  pid? := h.pid?
  outputs chunk child _ _ hs := by
    obtain ⟨hanswer, hw⟩ := h.outputs chunk child hs.1
    exact ⟨hanswer, hs.note hw (congrArg (Event.drain chunk child) hanswer)⟩

/-- Of two launches that take the guard, the one with named arguments makes one more call, right after that: it warns.
All else is the same, and launches that do not come to the guard are the same altogether. -/
theorem trace_of_named {R : σ → σ → σ → Prop} (hagree : ∀ w₁, Collaborators.AgreeFully (R w₁) c c)
    (hwarned : ∀ w₁, R w₁ w₁ (c.warn namedWarning w₁)) (h : req.SameButNamed req')
    (hplain : req.args.named.isEmpty = true) (hnamed : req'.args.named.isEmpty = false) (w : σ) :
    if .reserved ∈ Event.slots (trace c launcher req w) then
      ∃ w₁ way more, trace c launcher req w = way ++ acquisition ++ more ∧
        trace c launcher req' w = way ++ acquisition ++ .warn namedWarning :: more ∧
        Alike (R w₁) (run c launcher req w) (run c launcher req' w)
    else run c launcher req w = run c launcher req' w ∧ trace c launcher req w = trace c launcher req' w := by
  have hparts := @run_of_named _ _ c.traced launcher _ _
    (fun s₁ => Since (R s₁.1) s₁.2 (s₁.2 ++ [.warn namedWarning]))
    (fun s₁ => agree_since (hagree s₁.1) _ _)
    (fun s₁ => ⟨hwarned s₁.1, [], (List.append_nil _).symm, (List.append_nil _).symm⟩) h hplain hnamed (w, [])
  rw [run_traced, run_traced] at hparts
  rcases hparts with hsame | ⟨⟨stage, dir, held⟩, s₁, program, hsteps, hstage, houtcome, hworld, more, hes, hfs⟩
  · obtain ⟨houtcome, hsame⟩ := Prod.mk.inj hsame
    obtain ⟨hworld, htrace⟩ := Prod.mk.inj hsame
    rw [if_neg]
    · exact ⟨Prod.ext houtcome hworld, htrace⟩
    · intro hacquired
      have hcount := (run_course c launcher req w).namedWarning_count
      have hcount' := (run_course c launcher req' w).namedWarning_count
      rw [← htrace] at hcount'
      simp [hcount, hplain, hnamed, hacquired] at hcount'
  · obtain rfl : stage = _ := hstage
    have htold := hsteps.told
    generalize s₁.2 = es at htold hes hfs
    cases htold with
    | @warning way _ _ hready =>
      rw [List.append_assoc _ [_], List.singleton_append] at hfs
      rw [if_pos]
      · exact ⟨s₁.1, way, more, hes, hfs, houtcome, hworld⟩
      · rw [show trace c launcher req w = way ++ acquisition ++ more from hes]
        simp

end Launch

end ScriptExec
