-- SUMMARY: The calls of a launch as they can follow each other: its stages, in their order.
import ScriptExec.Proofs.Launch.Cleanup

/-!
# Courses of launches

The calls of a launch, with their answers, follow a fixed order. Each stage has its calls and what comes
of them (`UserCalls` to `BackCalls`); the first stage that fails gives the outcome, and only a launch
that has come to the guard goes back and takes its leave (`Course`). `Told` says what calls a launch under
way has made, by its stage, whatever else goes on in the world between its steps; at a finished stage
that is a whole course.
-/

namespace ScriptExec.Launch

variable {σ κ : Type}

/-! ## The calls of the stages -/

section

variable (pid? : κ → Option Nat) (launcher : Launcher) (req : Request)

/-- Becoming the user that is asked for. -/
inductive UserCalls : List (Event κ) → Except ExecError Unit → Prop
  | notAsked (h : req.user = none) : UserCalls [] (.ok ())
  | ignored {user} (h : req.user = some user) (hdropped : launcher.privilegesDropped = true) :
      UserCalls [.log (launcherRecord .debug ["user"]
        "privileges already dropped globally; ignoring per-call user")] (.ok ())
  | granted {user} (h : req.user = some user) (hkept : launcher.privilegesDropped = false) :
      UserCalls [.becomeUser user (.ok ())] (.ok ())
  | denied {user reason} (h : req.user = some user) (hkept : launcher.privilegesDropped = false) :
      UserCalls [.becomeUser user (.error reason)] (.error (.privilegeDrop reason))

/-- Whether the command is handed on as it stands, without a lookup. -/
def isGiven : Bool :=
  if req.changeDir then Path.isAbsolute (utf8 req.cmd)
  else launcher.searchPath.isNone || req.cmd.toList.contains '/'

/-- The error of a launch whose command is not found. -/
def missError : ExecError :=
  if req.changeDir then .resolution req.cmd else .spawn req.cmd notInSearchPath

/-- Finding the program. -/
inductive LookupCalls : List (Event κ) → Except ExecError Path → Prop
  | given (h : isGiven launcher req = true) : LookupCalls [] (.ok (utf8 req.cmd))
  | found {path} (h : isGiven launcher req = false) :
      LookupCalls [.find req.cmd (some path)] (.ok path)
  | missed (h : isGiven launcher req = false) :
      LookupCalls [.find req.cmd none] (.error (missError req))

/-- Noting the working directory. -/
inductive SaveCalls : List (Event κ) → Except IoError Path → Prop
  | read {dir} : SaveCalls [] (.ok dir)
  | unread {cause} :
      SaveCalls [.log (DirectoryContext.record .warn "error"
        "getcwd failed; working directory will not be restored")] (.error cause)

/-- Going to the directory of a program. -/
def entry (program : Path) : List (Event κ) :=
  [.change (Path.containingDir program) (.ok ()),
    .log (DirectoryContext.record .debug "dir" "changed working directory")]

/-- Telling that there is no directory to go back to, if so. -/
def saveReport : Except IoError Path → List (Event κ)
  | .ok _ => []
  | .error cause => [.warn (saveWarning cause)]

/-- The calls with which a launch takes the guard. -/
def acquisition : List (Event κ) :=
  [.setSlot .reserved, .log (guardRecord .trace [] "execution guard acquired")]

/-- Finding the guard taken. -/
def refusal : List (Event κ) :=
  [.log (guardRecord .debug ["state"] "execution guard busy")]

/-- Telling that named arguments are ignored, if there are any. -/
def namedReport : List (Event κ) :=
  if req.args.named.isEmpty then [] else [.warn namedWarning]

/-- Creating a child. -/
def creation (program : Path) (child : κ) : List (Event κ) :=
  [.spawn (.ofArgv program req.args.toArgv) (.ok child),
    .log (launcherRecord .debug ["cmd", "pid", "argc"] "spawned child")]

/-- Telling the guard about a child that has a number. -/
def childNote (child : κ) : List (Event κ) :=
  match pid? child with
  | some pid => [.setSlot (.tracking pid)]
  | none => []

/-- Draining a child. -/
def reading (child : κ) (outputs : Outputs) : List (Event κ) :=
  let drained := launcher.multiplexer.drain outputs.a outputs.b outputs.schedule
  .drain launcher.multiplexer.chunkSize child outputs ::
    ((drainRecords drained.1 drained.2).map .log ++
      [.log (launcherRecord .debug ["pid", "status"] "child exited")])

/-- Running a program: the child and its output. -/
inductive ChildCalls (program : Path) : List (Event κ) → Outcome → Prop
  | notSpawned {cause} :
      ChildCalls program [.spawn (.ofArgv program req.args.toArgv) (.error cause)]
        (.error (.spawn req.cmd cause))
  | drained (child : κ) (outputs : Outputs) :
      ChildCalls program
        (creation req program child ++ childNote pid? child ++ reading launcher child outputs)
        (launcher.multiplexer.drain outputs.a outputs.b outputs.schedule).1

/-- Going back to the directory that was noted, if one was. -/
inductive BackCalls : Option Path → List (Event κ) → Prop
  | nowhere : BackCalls none []
  | back {dir} : BackCalls (some dir)
      [.change dir (.ok ()), .log (DirectoryContext.record .debug "dir" "restored working directory")]
  | stuck {dir} (cause : IoError) : BackCalls (some dir)
      [.change dir (.error cause), .error (restoreError dir cause)]

/-- Freeing the guard, if it is held. -/
def freeing (held : Bool) : List (Event κ) :=
  if held then [.setSlot .idle, .log (guardRecord .trace [] "execution guard released")] else []

/-! ## Courses -/

/-- The launch has found its program. -/
inductive Located (program : Path) : List (Event κ) → Prop
  | intro {u l} (hvalid : req.validate = .ok ()) (huser : UserCalls launcher req u (.ok ()))
      (hlookup : LookupCalls launcher req l (.ok program)) : Located program (u ++ l)

/-- The launch has come to the guard, from where it goes back to `home`. -/
inductive Ready (program : Path) : Option Path → List (Event κ) → Prop
  | stays {way} (h : Located launcher req program way) (hstay : req.changeDir = false) :
      Ready program none way
  | moves {way s saved} (h : Located launcher req program way) (hmove : req.changeDir = true)
      (hsave : SaveCalls s saved) :
      Ready program saved.toOption (way ++ s ++ entry program ++ saveReport saved)

/-- A stage before the guard has failed, and none before it. -/
inductive EarlyFailure : List (Event κ) → ExecError → Prop
  | invalid {e} (h : req.validate = .error e) : EarlyFailure [] e
  | denied {u e} (hvalid : req.validate = .ok ()) (huser : UserCalls launcher req u (.error e)) :
      EarlyFailure u e
  | missed {u l e} (hvalid : req.validate = .ok ()) (huser : UserCalls launcher req u (.ok ()))
      (hlookup : LookupCalls launcher req l (.error e)) : EarlyFailure (u ++ l) e
  | barred {way s program saved cause} (h : Located launcher req program way)
      (hmove : req.changeDir = true) (hsave : SaveCalls s saved) :
      EarlyFailure (way ++ s ++ [.change (Path.containingDir program) (.error cause)])
        (.directory (Path.containingDir program) cause)

/-- The launch has settled on an outcome at the guard or behind it. -/
inductive Settled : Option Path → Bool → List (Event κ) → Outcome → Prop
  | busy {program home way pid} (h : Ready launcher req program home way) :
      Settled home false (way ++ refusal) (.error (.reentrancy pid))
  | held {program home way child outcome} (h : Ready launcher req program home way)
      (hchild : ChildCalls pid? launcher req program child outcome) :
      Settled home true (way ++ acquisition ++ namedReport req ++ child) outcome

/-- All calls of a launch, with its outcome. -/
inductive Course : List (Event κ) → Outcome → Prop
  | early {es e} (h : EarlyFailure launcher req es e) : Course es (.error e)
  | settled {home held es back outcome} (h : Settled pid? launcher req home held es outcome)
      (hback : BackCalls home back) : Course (es ++ back ++ parting held outcome) outcome

/-- What calls a launch under way has made. -/
inductive Told : InFlight κ → List (Event κ) → Prop
  | validating : Told ⟨.validating, none, false⟩ []
  | switchingUser (hvalid : req.validate = .ok ()) : Told ⟨.switchingUser, none, false⟩ []
  | locating {u} (hvalid : req.validate = .ok ()) (huser : UserCalls launcher req u (.ok ())) :
      Told ⟨.locating, none, false⟩ u
  | savingDir {way program} (h : Located launcher req program way) (hmove : req.changeDir = true) :
      Told ⟨.savingDir program, none, false⟩ way
  | enteringDir {way s program saved} (h : Located launcher req program way)
      (hmove : req.changeDir = true) (hsave : SaveCalls s saved) :
      Told ⟨.enteringDir program saved, none, false⟩ (way ++ s)
  | reportingSave {way s program cause context} (h : Located launcher req program way)
      (hmove : req.changeDir = true) (hsave : SaveCalls s (.error cause))
      (hdir : home? context = none) :
      Told ⟨.reportingSave program cause, some context, false⟩ (way ++ s ++ entry program)
  | acquiring {way program dir} (h : Ready launcher req program (dir.bind home?) way) :
      Told ⟨.acquiring program, dir, false⟩ way
  | refused {way program dir} (h : Ready launcher req program (dir.bind home?) way) :
      Told ⟨.refused, dir, false⟩ (way ++ refusal)
  | warning {way program dir} (h : Ready launcher req program (dir.bind home?) way) :
      Told ⟨.warning program, dir, true⟩ (way ++ acquisition)
  | spawning {way program dir} (h : Ready launcher req program (dir.bind home?) way) :
      Told ⟨.spawning program, dir, true⟩ (way ++ acquisition ++ namedReport req)
  | tracking {way program dir child} (h : Ready launcher req program (dir.bind home?) way) :
      Told ⟨.tracking child, dir, true⟩
        (way ++ acquisition ++ namedReport req ++ creation req program child)
  | draining {way program dir child} (h : Ready launcher req program (dir.bind home?) way) :
      Told ⟨.draining child, dir, true⟩
        (way ++ acquisition ++ namedReport req ++ (creation req program child ++ childNote pid? child))
  | restoring {es dir held outcome}
      (h : Settled pid? launcher req (dir.bind home?) held es outcome) :
      Told ⟨.restoring outcome, dir, held⟩ es
  | reportingRestore {es dir held outcome path cause}
      (h : Settled pid? launcher req (some path) held es outcome) :
      Told ⟨.reportingRestore path cause outcome, dir, held⟩ (es ++ [.change path (.error cause)])
  | releasing {es back home dir held outcome} (h : Settled pid? launcher req home held es outcome)
      (hback : BackCalls home back) : Told ⟨.releasing outcome, dir, held⟩ (es ++ back)
  | recording {es back home dir held outcome} (h : Settled pid? launcher req home held es outcome)
      (hback : BackCalls home back) :
      Told ⟨.recording outcome, dir, false⟩ (es ++ back ++ freeing held)
  | finished {es dir outcome} (h : Course pid? launcher req es outcome) :
      Told ⟨.finished outcome, dir, false⟩ es

end

/-! ## Stages make their calls -/

variable {c : Collaborators σ κ} {launcher : Launcher} {req : Request}
variable {s s' : σ × List (Event κ)}

theorem switchUser_calls {answer : Except ExecError Unit}
    (h : switchUser c.traced launcher req s = (answer, s')) :
    ∃ es, UserCalls launcher req es answer ∧ s'.2 = s.2 ++ es := by
  unfold switchUser at h
  cases huser : req.user with
  | none =>
    simp only [huser, Prod.mk.injEq] at h
    obtain ⟨rfl, rfl⟩ := h
    exact ⟨[], .notAsked huser, (List.append_nil _).symm⟩
  | some user =>
    cases hdropped : launcher.privilegesDropped with
    | true =>
      simp only [huser, hdropped, if_true, Prod.mk.injEq] at h
      obtain ⟨rfl, rfl⟩ := h
      exact ⟨_, .ignored huser hdropped, rfl⟩
    | false =>
      rcases hbecome : c.becomeUser user s.1 with ⟨reason | u, w⟩ <;>
        simp only [huser, hdropped, Collaborators.traced, hbecome, Bool.false_eq_true, if_false,
          Prod.mk.injEq] at h <;> obtain ⟨rfl, rfl⟩ := h
      · exact ⟨_, .denied huser hdropped, rfl⟩
      · exact ⟨_, .granted huser hdropped, rfl⟩

theorem find_calls {name : String} {found : Option Path}
    (h : c.traced.find name s = (found, s')) : s'.2 = s.2 ++ [.find name found] := by
  simp only [Collaborators.traced, Prod.mk.injEq] at h
  obtain ⟨rfl, rfl⟩ := h
  rfl

theorem locate_calls {answer : Except ExecError Path}
    (h : locate c.traced launcher req s = (answer, s')) :
    ∃ es, LookupCalls launcher req es answer ∧ s'.2 = s.2 ++ es := by
  have hempty : s.2 = s.2 ++ [] := (List.append_nil _).symm
  unfold locate at h
  cases hmove : req.changeDir with
  | true =>
    cases habs : Path.isAbsolute (utf8 req.cmd) with
    | true =>
      simp only [hmove, habs, if_true, Prod.mk.injEq] at h
      obtain ⟨rfl, rfl⟩ := h
      exact ⟨[], .given (by simp [isGiven, hmove, habs]), hempty⟩
    | false =>
      have hgiven : isGiven launcher req = false := by simp [isGiven, hmove, habs]
      simp only [hmove, habs, if_true, Bool.false_eq_true, if_false] at h
      split at h <;> rename_i hfind <;> cases h
      · exact ⟨_, .found hgiven, find_calls hfind⟩
      · refine ⟨[.find req.cmd none], ?_, find_calls hfind⟩
        have hmiss : missError req = .resolution req.cmd := by simp [missError, hmove]
        exact hmiss ▸ .missed hgiven
  | false =>
    cases hstands : launcher.searchPath.isNone || req.cmd.toList.contains '/' with
    | true =>
      simp only [hmove, hstands, if_true, Bool.false_eq_true, if_false, Prod.mk.injEq] at h
      obtain ⟨rfl, rfl⟩ := h
      have hgiven : isGiven launcher req = true := by
        simp only [isGiven, hmove, hstands, Bool.false_eq_true, if_false]
      exact ⟨[], .given hgiven, hempty⟩
    | false =>
      have hgiven : isGiven launcher req = false := by
        simp only [isGiven, hmove, hstands, Bool.false_eq_true, if_false]
      simp only [hmove, hstands, Bool.false_eq_true, if_false] at h
      split at h <;> rename_i hfind <;> cases h
      · exact ⟨_, .found hgiven, find_calls hfind⟩
      · refine ⟨[.find req.cmd none], ?_, find_calls hfind⟩
        have hmiss : missError req = .spawn req.cmd notInSearchPath := by simp [missError, hmove]
        exact hmiss ▸ .missed hgiven

theorem save_calls {saved : Except IoError Path}
    (h : DirectoryContext.save c.traced.toDirectories s = (saved, s')) :
    ∃ es, SaveCalls es saved ∧ s'.2 = s.2 ++ es := by
  unfold DirectoryContext.save at h
  split at h <;> cases h
  · exact ⟨[], .read, (List.append_nil _).symm⟩
  · exact ⟨_, .unread, rfl⟩

theorem change_calls {path : Path} {answer : Except IoError Unit}
    (h : c.traced.change path s = (answer, s')) : s'.2 = s.2 ++ [.change path answer] := by
  simp only [Collaborators.traced, Prod.mk.injEq] at h
  obtain ⟨rfl, rfl⟩ := h
  rfl

/-- Who enters a directory can go back to what was noted before. -/
theorem enter_calls {saved : Except IoError Path} {program : Path} {context : DirectoryContext}
    (h : DirectoryContext.move c.traced.toDirectories saved (Path.containingDir program) s =
      (.ok context, s')) : home? context = saved.toOption ∧ s'.2 = s.2 ++ entry program := by
  obtain ⟨v, hchange, rfl, rfl⟩ := move_ok h
  refine ⟨rfl, ?_⟩
  simp only [Collaborators.traced, change_calls hchange, List.append_assoc]
  rfl

theorem spawn_calls {plan : SpawnPlan} {answer : Except IoError κ}
    (h : c.traced.spawn plan s = (answer, s')) : s'.2 = s.2 ++ [.spawn plan answer] := by
  simp only [Collaborators.traced, Prod.mk.injEq] at h
  obtain ⟨rfl, rfl⟩ := h
  rfl

theorem restore_calls {context done : DirectoryContext}
    (h : context.restore c.traced.toDirectories s = (.ok (), done, s')) :
    ∃ back, BackCalls (home? context) back ∧ s'.2 = s.2 ++ back := by
  obtain ⟨saved, target, restored⟩ := context
  cases restored with
  | true =>
    cases h
    exact ⟨[], .nowhere, (List.append_nil _).symm⟩
  | false =>
    cases saved with
    | none =>
      cases h
      exact ⟨[], .nowhere, (List.append_nil _).symm⟩
    | some dir =>
      obtain ⟨v, hchange, rfl⟩ := restore_ok rfl rfl h
      refine ⟨_, .back, ?_⟩
      simp only [Collaborators.traced, change_calls hchange, List.append_assoc]
      rfl

theorem restore_error_calls {context done : DirectoryContext} {path : Path} {cause : IoError}
    (h : context.restore c.traced.toDirectories s = (.error (path, cause), done, s')) :
    home? context = some path ∧ s'.2 = s.2 ++ [.change path (.error cause)] := by
  obtain ⟨hsaved, hchange⟩ := restore_error h
  refine ⟨?_, change_calls hchange⟩
  unfold home?
  unfold DirectoryContext.restore at h
  split at h
  · cases h
  · rename_i hfirst
    rw [if_neg hfirst, hsaved]

theorem logAll_calls (records : List Log.Record) (s : σ × List (Event κ)) :
    (records.foldl (fun s record => c.traced.log record s) s).2 = s.2 ++ records.map .log := by
  induction records generalizing s with
  | nil => exact (List.append_nil _).symm
  | cons record records ih =>
    rw [List.foldl_cons, ih]
    simp [Collaborators.traced]

theorem drain_calls {child : κ} {outputs : Outputs}
    (h : c.traced.outputs launcher.multiplexer.chunkSize child s = (outputs, s')) :
    let drained := launcher.multiplexer.drain outputs.a outputs.b outputs.schedule
    (c.traced.log (launcherRecord .debug ["pid", "status"] "child exited")
      ((drainRecords drained.1 drained.2).foldl (fun s record => c.traced.log record s) s')).2 =
        s.2 ++ reading launcher child outputs := by
  have hlog : ∀ record (v : σ × List (Event κ)), (c.traced.log record v).2 = v.2 ++ [.log record] :=
    fun _ _ => rfl
  simp only [Collaborators.traced, Prod.mk.injEq] at h
  obtain ⟨rfl, rfl⟩ := h
  simp only [hlog, logAll_calls, reading, List.append_assoc, List.cons_append, List.nil_append]

/-! ## Launches follow a course -/

section

variable {l l' : InFlight κ}

/-- A step adds the calls of its stage. -/
theorem Told.step (h : Told c.pid? launcher req l s.2)
    (hstep : Step c.traced launcher req l s l' s') : Told c.pid? launcher req l' s'.2 := by
  obtain ⟨w, es⟩ := s
  cases hstep with
  | accept hvalid =>
    cases h
    exact .switchingUser hvalid
  | reject hvalid =>
    cases h
    exact .finished (.early (.invalid hvalid))
  | switch hswitch =>
    obtain ⟨u, huser, hcalls⟩ := switchUser_calls hswitch
    cases h with
    | switchingUser hvalid => exact hcalls ▸ .locating hvalid huser
  | notSwitch hswitch =>
    obtain ⟨u, huser, hcalls⟩ := switchUser_calls hswitch
    cases h with
    | switchingUser hvalid => exact hcalls ▸ .finished (.early (.denied hvalid huser))
  | locateToMove hlocate hmove =>
    obtain ⟨l, hlookup, hcalls⟩ := locate_calls hlocate
    cases h with
    | locating hvalid huser => exact hcalls ▸ .savingDir (.intro hvalid huser hlookup) hmove
  | locateToStay hlocate hstay =>
    obtain ⟨l, hlookup, hcalls⟩ := locate_calls hlocate
    cases h with
    | locating hvalid huser =>
      exact hcalls ▸ .acquiring (.stays (.intro hvalid huser hlookup) hstay)
  | notLocate hlocate =>
    obtain ⟨l, hlookup, hcalls⟩ := locate_calls hlocate
    cases h with
    | locating hvalid huser => exact hcalls ▸ .finished (.early (.missed hvalid huser hlookup))
  | save hsave =>
    obtain ⟨e, hsave, hcalls⟩ := save_calls hsave
    cases h with
    | savingDir hlocated hmove => exact hcalls ▸ .enteringDir hlocated hmove hsave
  | enter hmoved =>
    obtain ⟨hhome, hcalls⟩ := enter_calls hmoved
    cases h with
    | enteringDir hlocated hmove hsave =>
      have hready := Ready.moves hlocated hmove hsave
      simp only [saveReport, List.append_nil, ← hhome] at hready
      exact hcalls ▸ .acquiring hready
  | enterUnsaved hmoved =>
    obtain ⟨hhome, hcalls⟩ := enter_calls hmoved
    cases h with
    | enteringDir hlocated hmove hsave => exact hcalls ▸ .reportingSave hlocated hmove hsave hhome
  | notEnter hmoved =>
    obtain ⟨cause, hchange, rfl⟩ := move_error hmoved
    cases h with
    | enteringDir hlocated hmove hsave =>
      exact change_calls hchange ▸ .finished (.early (.barred hlocated hmove hsave))
  | reportSave =>
    cases h with
    | reportingSave hlocated hmove hsave hdir =>
      have hready := Ready.moves hlocated hmove hsave
      rw [Except.toOption, ← hdir] at hready
      exact .acquiring hready
  | acquire =>
    cases h with
    | acquiring hready =>
      have htold : Told c.pid? launcher req _ _ := .warning hready
      simpa [acquisition, Collaborators.traced] using htold
  | busy =>
    cases h with
    | acquiring hready => exact .refused hready
  | refuse =>
    cases h with
    | refused hready => exact .restoring (.busy hready)
  | warn =>
    cases h with
    | warning hready =>
      have htold : Told c.pid? launcher req _ _ := .spawning hready
      unfold namedReport at htold
      split <;> rename_i hnamed
      · simpa [hnamed] using htold
      · simpa [hnamed, Collaborators.traced] using htold
  | notSpawn hspawn =>
    cases h with
    | spawning hready =>
      exact spawn_calls hspawn ▸ .restoring (.held hready .notSpawned)
  | @spawn dir _ _ _ program child hspawn =>
    cases h with
    | spawning hready =>
      have htold : Told c.pid? launcher req ⟨.tracking child, dir, true⟩ _ := .tracking hready
      simpa [creation, Collaborators.traced, spawn_calls hspawn] using htold
  | @track dir _ _ child =>
    cases h with
    | tracking hready =>
      have htold : Told c.pid? launcher req ⟨.draining child, dir, true⟩ _ := .draining hready
      unfold childNote at htold
      simp only [Collaborators.traced]
      split <;> rename_i hpid <;> simpa [hpid] using htold
  | @drain _ _ _ _ child outputs _ _ hout hdrain =>
    cases h with
    | @draining way program dir _ hready =>
      have hcalls := drain_calls hout
      have hchild : ChildCalls c.pid? launcher req program _ _ := .drained child outputs
      simp only [hdrain] at hcalls hchild
      have htold := Told.restoring (.held hready hchild)
      rw [hcalls]
      simpa using htold
  | stay =>
    cases h with
    | restoring hsettled => simpa using Told.releasing hsettled .nowhere
  | restore hrestore =>
    obtain ⟨back, hback, hcalls⟩ := restore_calls hrestore
    cases h with
    | restoring hsettled => exact hcalls ▸ .releasing hsettled hback
  | notRestore hrestore =>
    obtain ⟨hhome, hcalls⟩ := restore_error_calls hrestore
    cases h with
    | restoring hsettled =>
      rw [Option.bind_some, hhome] at hsettled
      exact hcalls ▸ .reportingRestore hsettled
  | @reportRestore dir held _ path cause outcome =>
    cases h with
    | reportingRestore hsettled =>
      simpa [Collaborators.traced] using Told.releasing hsettled (.stuck cause)
  | release =>
    cases h with
    | releasing hsettled hback =>
      simpa [freeing, Collaborators.traced] using Told.recording hsettled hback
  | leave =>
    cases h with
    | releasing hsettled hback => simpa [freeing] using Told.recording hsettled hback
  | record =>
    cases h with
    | recording hsettled hback =>
      have hcourse := Course.settled hsettled hback
      simpa [parting, freeing, Collaborators.traced] using Told.finished hcourse

/-- After a step, a launch has made the calls of that step too. -/
theorem Told.next {es : List (Event κ)} (h : Told c.pid? launcher req l es) (w : σ) :
    Told c.pid? launcher req (Launch.step c launcher req l w).1
      (es ++ stepCalls c launcher req l w) := by
  by_cases hgoing : l.stage.outcome? = none
  · have hstep := step_spec c.traced launcher req (w, es) hgoing
    rw [step_traced] at hstep
    exact h.step hstep
  · obtain ⟨outcome, hstage⟩ := Stage.eq_finished hgoing
    simpa [Launch.step, stepCalls, hstage] using h

/-- What a launch has called is known at all times. -/
theorem Steps.told {w : σ} (h : Steps c.traced launcher req {} (w, []) l s) :
    Told c.pid? launcher req l s.2 :=
  h.keeps (P := fun l s => Told c.pid? launcher req l s.2) (fun _ htold hstep => htold.step hstep)
    .validating

end

variable (c launcher req) in
/-- Every launch follows a course. -/
theorem run_course (w : σ) :
    Course c.pid? launcher req (trace c launcher req w) (run c launcher req w).1 := by
  obtain ⟨last, hsteps, hstage⟩ := @run_steps _ _ c.traced launcher req (w, [])
  have htold := hsteps.told
  rw [run_traced] at htold hstage
  obtain ⟨stage, dir, held⟩ := last
  obtain rfl : stage = _ := hstage
  cases htold with
  | finished hcourse => exact hcourse

end ScriptExec.Launch
