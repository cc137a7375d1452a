-- SUMMARY: The way of a launch through the working directories: there, and back again at most once.
import ScriptExec.Proofs.Launch.Frame
import ScriptExec.Proofs.Launch.Trace

/-!
# Journeys of launches

A launch goes to the directory of its command, if it is asked to, and back to the one that it noted. A
`Journey` is all that it can have done about that by its end: the changes of directory, the errors it
reported about them, and where it is left. `Whereabouts` says the same of a launch under way, by the
`Leg` on which its stage is.
-/

namespace ScriptExec.Launch

variable {σ κ δ : Type}

/-- The launch comes to the point at which it goes back, settled on an outcome. -/
def Returns (c : Collaborators σ κ) (launcher : Launcher) (req : Request) (w₀ w : σ)
    (outcome : Outcome) : Prop :=
  ∃ l, Steps c launcher req {} w₀ l w ∧ l.stage = .restoring outcome

/-- What keeps track of the working directory: only a change of directory that succeeds leads to another
one, and what comes before it does not change how the directory reads. -/
structure KeepsDir (c : Collaborators σ κ) (cwd : σ → δ) : Prop where
  keeps : c.Keeps cwd
  setSlot : ∀ slot w, cwd (c.setSlot slot w) = cwd w
  error : ∀ text w, cwd (c.error text w) = cwd w
  failed : ∀ path w cause, (c.change path w).1 = .error cause → cwd (c.change path w).2 = cwd w
  current : c.KeepsEarly c.current

/-- Where a process is, with the changes of directory and the errors that were noted of a launch. -/
abbrev Sight (δ : Type) := δ × List (Path × Except IoError Unit) × List String

def sight (cwd : σ → δ) (s : σ × List (Event κ)) : Sight δ :=
  (cwd s.1, Event.changes s.2, Event.errors s.2)

/-- The parts of a launch's way. -/
inductive Leg
  | outset
  /-- It has noted where it is, or why it cannot tell. -/
  | leaving (saved : Except IoError Path)
  | abroad
  /-- It could not go back, and has not yet said so. -/
  | stuck (dir : Path) (cause : IoError)
  | arrived

def Stage.leg : Stage κ → Leg
  | .validating | .switchingUser | .locating | .savingDir _ => .outset
  | .enteringDir _ saved => .leaving saved
  | .reportingRestore dir cause _ => .stuck dir cause
  | .releasing _ | .recording _ | .finished _ => .arrived
  | _ => .abroad

section

variable (c : Collaborators σ κ) (launcher : Launcher) (req : Request) (cwd : σ → δ) (w₀ : σ)

/-- All that a launch can have done about the working directory. -/
inductive Journey : Sight δ → Prop
  | stayed : Journey (cwd w₀, [], [])
  | refused {target cause} : Journey (cwd w₀, [(target, .error cause)], [])
  /-- Nothing was noted, so there was nowhere to go back to. -/
  | unsaved {target cause here} (h : c.current w₀ = .error cause) :
      Journey (here, [(target, .ok ())], [])
  | back {target dir w outcome} (h : c.current w₀ = .ok dir)
      (hreturn : Returns c launcher req w₀ w outcome) (hback : (c.change dir w).1 = .ok ()) :
      Journey (cwd (c.change dir w).2, [(target, .ok ()), (dir, .ok ())], [])
  /-- The way back failed, which was reported once. -/
  | stuck {target dir w outcome cause here} (h : c.current w₀ = .ok dir)
      (hreturn : Returns c launcher req w₀ w outcome)
      (hback : (c.change dir w).1 = .error cause) :
      Journey (here, [(target, .ok ()), (dir, .error cause)], [restoreError dir cause])

/-- What a launch has done about the working directory, by the leg it is on and its context. -/
inductive Whereabouts : Leg → Option DirectoryContext → Sight δ → Prop
  | outset : Whereabouts .outset none (cwd w₀, [], [])
  | leaving : Whereabouts (.leaving (c.current w₀)) none (cwd w₀, [], [])
  | atHome : Whereabouts .abroad none (cwd w₀, [], [])
  | away {target here} :
      Whereabouts .abroad (some ⟨(c.current w₀).toOption, target, false⟩)
        (here, [(target, .ok ())], [])
  | stuck {target dir w outcome cause here context} (h : c.current w₀ = .ok dir)
      (hreturn : Returns c launcher req w₀ w outcome)
      (hback : (c.change dir w).1 = .error cause) :
      Whereabouts (.stuck dir cause) context
        (here, [(target, .ok ()), (dir, .error cause)], [])
  | arrived {context x} (h : Journey c launcher req cwd w₀ x) : Whereabouts .arrived context x

/-- Where a launch is whose calls are noted. Until it notes its directory, that reads as at first. -/
structure UnderWay (l : InFlight κ) (s : σ × List (Event κ)) : Prop where
  whereabouts : Whereabouts c launcher req cwd w₀ l.stage.leg l.dir (sight cwd s)
  current : l.stage.leg = .outset → c.current s.1 = c.current w₀

end

variable {c : Collaborators σ κ} {launcher : Launcher} {req : Request} {cwd : σ → δ} {w₀ : σ}

theorem sight_change (path : Path) (s : σ × List (Event κ)) :
    sight cwd (c.traced.change path s).2 =
      (cwd (c.change path s.1).2, Event.changes s.2 ++ [(path, (c.change path s.1).1)],
        Event.errors s.2) := by
  simp [sight, Collaborators.traced, Event.changes, Event.errors]

theorem sight_error (text : String) (s : σ × List (Event κ)) :
    sight cwd (c.traced.error text s) =
      (cwd (c.error text s.1), Event.changes s.2, Event.errors s.2 ++ [text]) := by
  simp [sight, Collaborators.traced, Event.changes, Event.errors]

theorem sight_setSlot (hc : KeepsDir c cwd) (slot : Slot) (s : σ × List (Event κ)) :
    sight cwd (c.traced.setSlot slot s) = sight cwd s := by
  simp [sight, Collaborators.traced, Event.changes, Event.errors, hc.setSlot]

/-- The calls that have nothing to do with directories cannot be seen. -/
theorem sight_keeps (hc : KeepsDir c cwd) : c.traced.Keeps (sight cwd) where
  log record s := by
    simp [sight, Collaborators.traced, Event.changes, Event.errors, hc.keeps.log]
  becomeUser user s := by
    simp [sight, Collaborators.traced, Event.changes, Event.errors, hc.keeps.becomeUser]
  find name s := by
    simp [sight, Collaborators.traced, Event.changes, Event.errors, hc.keeps.find]
  spawn plan s := by
    simp [sight, Collaborators.traced, Event.changes, Event.errors, hc.keeps.spawn]
  outputs chunk child s := by
    simp [sight, Collaborators.traced, Event.changes, Event.errors, hc.keeps.outputs]
  warn text s := by
    simp [sight, Collaborators.traced, Event.changes, Event.errors, hc.keeps.warn]

theorem current_keeps (hc : KeepsDir c cwd) : c.traced.KeepsEarly fun s => c.current s.1 where
  log record s := hc.current.log record s.1
  becomeUser user s := hc.current.becomeUser user s.1
  find name s := hc.current.find name s.1

/-! ## Steps -/

theorem Whereabouts.of_outset {context : Option DirectoryContext} {x : Sight δ}
    (h : Whereabouts c launcher req cwd w₀ .outset context x) :
    context = none ∧ x = (cwd w₀, [], []) := by
  cases h
  exact ⟨rfl, rfl⟩

theorem Whereabouts.of_leaving {saved : Except IoError Path} {context : Option DirectoryContext}
    {x : Sight δ} (h : Whereabouts c launcher req cwd w₀ (.leaving saved) context x) :
    saved = c.current w₀ ∧ context = none ∧ x = (cwd w₀, [], []) := by
  cases h
  exact ⟨rfl, rfl, rfl⟩

theorem Whereabouts.of_home {x : Sight δ} (h : Whereabouts c launcher req cwd w₀ .abroad none x) :
    x = (cwd w₀, [], []) := by
  cases h
  rfl

theorem Whereabouts.of_away {context : DirectoryContext} {x : Sight δ}
    (h : Whereabouts c launcher req cwd w₀ .abroad (some context) x) :
    ∃ target here, context = ⟨(c.current w₀).toOption, target, false⟩ ∧
      x = (here, [(target, .ok ())], []) := by
  cases h
  exact ⟨_, _, rfl, rfl⟩

theorem Whereabouts.report {dir : Path} {cause : IoError} {context : Option DirectoryContext}
    {x : Sight δ} (h : Whereabouts c launcher req cwd w₀ (.stuck dir cause) context x) (here : δ) :
    Journey c launcher req cwd w₀ (here, x.2.1, x.2.2 ++ [restoreError dir cause]) := by
  cases h with
  | stuck hcurrent hreturn hback => exact .stuck hcurrent hreturn hback

variable {l l' : InFlight κ} {s s' : σ × List (Event κ)}

/-- Going on without anything to do with directories. -/
theorem UnderWay.goOn (h : UnderWay c launcher req cwd w₀ l s) (hleg : l'.stage.leg = l.stage.leg)
    (hdir : l'.dir = l.dir) (hsight : sight cwd s' = sight cwd s)
    (hcurrent : l.stage.leg = .outset → c.current s'.1 = c.current s.1) :
    UnderWay c launcher req cwd w₀ l' s' where
  whereabouts := by
    rw [hleg, hdir, hsight]
    exact h.whereabouts
  current houtset := by
    rw [hleg] at houtset
    exact (hcurrent houtset).trans (h.current houtset)

theorem UnderWay.arrive (hleg : l'.stage.leg = .arrived)
    (h : Journey c launcher req cwd w₀ (sight cwd s')) : UnderWay c launcher req cwd w₀ l' s' where
  whereabouts := hleg ▸ .arrived h
  current houtset := by
    rw [hleg] at houtset
    cases houtset

/-- A launch that fails before it notes its directory has stayed where it was. -/
theorem UnderWay.giveUp (h : UnderWay c launcher req cwd w₀ l s) (houtset : l.stage.leg = .outset)
    (hleg : l'.stage.leg = .arrived) (hsight : sight cwd s' = sight cwd s) :
    UnderWay c launcher req cwd w₀ l' s' := by
  have hwhere := h.whereabouts
  rw [houtset] at hwhere
  refine .arrive hleg ?_
  rw [hsight, hwhere.of_outset.2]
  exact .stayed

/-- A launch that enters the directory of its command has a context that goes back to what it noted. -/
theorem UnderWay.enter {program : Path} {saved : Except IoError Path} {dir : Option DirectoryContext}
    {held : Bool} {context : DirectoryContext} {stage : Stage κ} (hc : KeepsDir c cwd)
    (h : UnderWay c launcher req cwd w₀ ⟨.enteringDir program saved, dir, held⟩ s)
    (hmove : DirectoryContext.move c.traced.toDirectories saved (Path.containingDir program) s =
      (.ok context, s')) (hleg : stage.leg = .abroad) :
    UnderWay c launcher req cwd w₀ ⟨stage, some context, held⟩ s' := by
  obtain ⟨hsaved, -, hsight⟩ := Whereabouts.of_leaving h.whereabouts
  obtain ⟨v, hchange, rfl, rfl⟩ := move_ok hmove
  have hanswer : (c.change (Path.containingDir program) s.1).1 = .ok () := congrArg Prod.fst hchange
  have hthere : sight cwd (c.traced.log
      (DirectoryContext.record .debug "dir" "changed working directory") v) =
      (cwd (c.change (Path.containingDir program) s.1).2,
        [(Path.containingDir program, .ok ())], []) := by
    obtain rfl : v = _ := (congrArg Prod.snd hchange).symm
    simp only [sight, Prod.mk.injEq] at hsight
    rw [(sight_keeps hc).log, sight_change, hanswer, hsight.2.1, hsight.2.2]
    rfl
  constructor
  · dsimp only
    rw [hleg, hthere, hsaved]
    exact .away
  · intro houtset
    dsimp only at houtset
    rw [hleg] at houtset
    cases houtset

/-- A launch that goes back makes one change of directory, to the one that it noted. -/
theorem UnderWay.goBack {outcome : Outcome} {context done : DirectoryContext} {held : Bool}
    (hc : KeepsDir c cwd) (h : UnderWay c launcher req cwd w₀ ⟨.restoring outcome, some context, held⟩ s)
    (hreturn : Returns c launcher req w₀ s.1 outcome)
    (hrestore : context.restore c.traced.toDirectories s = (.ok (), done, s')) :
    Journey c launcher req cwd w₀ (sight cwd s') := by
  obtain ⟨target, here, rfl, hsight⟩ := Whereabouts.of_away h.whereabouts
  cases hcurrent : c.current w₀ with
  | error cause =>
    rw [hcurrent, restore_unsaved rfl] at hrestore
    obtain rfl : s = s' := congrArg (fun x => x.2.2) hrestore
    rw [hsight]
    exact .unsaved hcurrent
  | ok dir =>
    rw [hcurrent] at hrestore
    obtain ⟨v, hchange, rfl⟩ := restore_ok rfl rfl hrestore
    have hanswer : (c.change dir s.1).1 = .ok () := congrArg Prod.fst hchange
    obtain rfl : v = _ := (congrArg Prod.snd hchange).symm
    simp only [sight, Prod.mk.injEq] at hsight
    rw [(sight_keeps hc).log, sight_change, hanswer, hsight.2.1, hsight.2.2]
    exact .back hcurrent hreturn hanswer

theorem UnderWay.getStuck {outcome : Outcome} {context done : DirectoryContext} {dir : Path}
    {cause : IoError} {held : Bool}
    (h : UnderWay c launcher req cwd w₀ ⟨.restoring outcome, some context, held⟩ s)
    (hreturn : Returns c launcher req w₀ s.1 outcome)
    (hrestore : context.restore c.traced.toDirectories s = (.error (dir, cause), done, s')) :
    UnderWay c launcher req cwd w₀ ⟨.reportingRestore dir cause outcome, some done, held⟩ s' := by
  obtain ⟨target, here, rfl, hsight⟩ := Whereabouts.of_away h.whereabouts
  obtain ⟨hsaved, hchange⟩ := restore_error hrestore
  have hanswer : (c.change dir s.1).1 = .error cause := congrArg Prod.fst hchange
  have hcurrent : c.current w₀ = .ok dir := by
    cases hread : c.current w₀ with
    | error cause => simp [hread, Except.toOption] at hsaved
    | ok noted =>
      simp only [hread, Except.toOption, Option.some.injEq] at hsaved
      rw [hsaved]
  obtain rfl : s' = _ := (congrArg Prod.snd hchange).symm
  simp only [sight, Prod.mk.injEq] at hsight
  constructor
  · rw [sight_change, hanswer, hsight.2.1, hsight.2.2]
    exact .stuck hcurrent hreturn hanswer
  · exact nofun

theorem UnderWay.step {l l' : InFlight κ} {s s' : σ × List (Event κ)} (hc : KeepsDir c cwd)
    (hsteps : Steps c.traced launcher req {} (w₀, []) l s) (h : UnderWay c launcher req cwd w₀ l s)
    (hstep : Step c.traced launcher req l s l' s') : UnderWay c launcher req cwd w₀ l' s' := by
  have hkeeps := sight_keeps hc
  have hearly := hkeeps.toKeepsEarly
  have hreads := current_keeps hc
  cases hstep with
  | accept => exact h.goOn rfl rfl rfl fun _ => rfl
  | reject => exact h.giveUp rfl rfl rfl
  | switch hswitch =>
    have hread := switchUser_keeps hreads hswitch
    exact h.goOn rfl rfl (switchUser_keeps hearly hswitch) fun _ => hread
  | notSwitch hswitch => exact h.giveUp rfl rfl (switchUser_keeps hearly hswitch)
  | locateToMove hlocate =>
    have hread := locate_keeps hreads hlocate
    exact h.goOn rfl rfl (locate_keeps hearly hlocate) fun _ => hread
  | locateToStay hlocate =>
    obtain ⟨rfl, hsight⟩ := Whereabouts.of_outset h.whereabouts
    constructor
    · rw [locate_keeps hearly hlocate, hsight]
      exact .atHome
    · exact nofun
  | notLocate hlocate => exact h.giveUp rfl rfl (locate_keeps hearly hlocate)
  | save hsave =>
    obtain ⟨rfl, hsight⟩ := Whereabouts.of_outset h.whereabouts
    obtain rfl := (save_answer hsave).trans (h.current rfl)
    constructor
    · rw [save_keeps hearly hsave, hsight]
      exact .leaving
    · exact nofun
  | enter hmove => exact h.enter hc hmove rfl
  | enterUnsaved hmove => exact h.enter hc hmove rfl
  | notEnter hmove =>
    obtain ⟨-, -, hsight⟩ := Whereabouts.of_leaving h.whereabouts
    obtain ⟨cause, hchange, -⟩ := move_error hmove
    have hanswer : (c.change (Path.containingDir _) s.1).1 = .error cause :=
      congrArg Prod.fst hchange
    obtain rfl : s' = _ := (congrArg Prod.snd hchange).symm
    simp only [sight, Prod.mk.injEq] at hsight
    refine .arrive rfl ?_
    rw [sight_change, hanswer, hc.failed _ _ _ hanswer, hsight.1, hsight.2.1, hsight.2.2]
    exact .refused
  | reportSave => exact h.goOn rfl rfl (hkeeps.warn _ s) nofun
  | acquire =>
    refine h.goOn rfl rfl ?_ nofun
    exact (hearly.log _ _).trans (sight_setSlot hc _ s)
  | busy => exact h.goOn rfl rfl (hearly.log _ s) nofun
  | refuse => exact h.goOn rfl rfl rfl nofun
  | warn =>
    refine h.goOn rfl rfl ?_ nofun
    split
    · rfl
    · exact hkeeps.warn _ s
  | notSpawn hspawn =>
    refine h.goOn rfl rfl ?_ nofun
    exact (congrArg (fun x => sight cwd x.2) hspawn).symm.trans (hkeeps.spawn _ s)
  | spawn hspawn =>
    have hsight := (congrArg (fun x => sight cwd x.2) hspawn).symm.trans (hkeeps.spawn _ s)
    exact h.goOn rfl rfl ((hearly.log _ _).trans hsight) nofun
  | track =>
    refine h.goOn rfl rfl ?_ nofun
    split
    · exact sight_setSlot hc _ s
    · rfl
  | drain hout =>
    have hsight := (congrArg (fun x => sight cwd x.2) hout).symm.trans (hkeeps.outputs _ _ s)
    refine h.goOn rfl rfl ?_ nofun
    exact (hearly.log _ _).trans ((logAll_keeps hearly _ _).trans hsight)
  | stay =>
    refine .arrive rfl ?_
    rw [Whereabouts.of_home h.whereabouts]
    exact .stayed
  | restore hrestore => exact .arrive rfl (h.goBack hc ⟨_, hsteps.untraced, rfl⟩ hrestore)
  | notRestore hrestore => exact h.getStuck ⟨_, hsteps.untraced, rfl⟩ hrestore
  | reportRestore =>
    refine .arrive rfl ?_
    rw [sight_error]
    exact h.whereabouts.report _
  | release =>
    refine h.goOn rfl rfl ?_ nofun
    exact (hearly.log _ _).trans (sight_setSlot hc _ s)
  | leave => exact h.goOn rfl rfl rfl nofun
  | record => exact h.goOn rfl rfl (hearly.log _ s) nofun

/-- Every launch has made one of the journeys. -/
theorem run_journey (hc : KeepsDir c cwd) (w : σ) :
    Journey c launcher req cwd w
      (cwd (run c launcher req w).2, Event.changes (trace c launcher req w),
        Event.errors (trace c launcher req w)) := by
  obtain ⟨last, hsteps, hstage⟩ := run_steps (c := c.traced) (w, [])
  have hlast : UnderWay c launcher req cwd w last (run c.traced launcher req (w, [])).2 := by
    refine hsteps.keeps (fun hsteps h hstep => h.step hc hsteps hstep) ?_
    exact ⟨.outset, fun _ => rfl⟩
  have hwhere := hlast.whereabouts
  rw [hstage, run_traced] at hwhere
  cases hwhere with
  | arrived h => exact h

end ScriptExec.Launch
