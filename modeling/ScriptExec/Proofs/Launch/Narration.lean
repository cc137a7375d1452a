-- SUMMARY: What is told of a launch: its errors and warnings, and when there is an error among them.
import ScriptExec.Proofs.Launch.Holding
import ScriptExec.Proofs.Launch.Journey

/-!
# What is told of launches

A story is a list in the world that every call of the collaborators adds to, by what is told of the call
(`Collaborators.Narrates`). A launch adds to it what is told of its calls, in their order
(`run_narrates`). Among the calls is an error in one case only: the launch could not go back to its
directory (`errors_trace`). What it writes to the log is never meant for scripts (`trace_keepLog`).
-/

namespace ScriptExec

variable {σ κ β : Type}

structure Collaborators.Narrates (c : Collaborators σ κ) (story : σ → List β)
    (told : Launch.Event κ → List β) : Prop where
  change : ∀ path w, story (c.change path w).2 = story w ++ told (.change path (c.change path w).1)
  log : ∀ record w, story (c.log record w) = story w ++ told (.log record)
  becomeUser : ∀ user w,
    story (c.becomeUser user w).2 = story w ++ told (.becomeUser user (c.becomeUser user w).1)
  find : ∀ name w, story (c.find name w).2 = story w ++ told (.find name (c.find name w).1)
  setSlot : ∀ slot w, story (c.setSlot slot w) = story w ++ told (.setSlot slot)
  spawn : ∀ plan w, story (c.spawn plan w).2 = story w ++ told (.spawn plan (c.spawn plan w).1)
  outputs : ∀ chunk child w, story (c.outputs chunk child w).2 =
    story w ++ told (.drain chunk child (c.outputs chunk child w).1)
  error : ∀ text w, story (c.error text w) = story w ++ told (.error text)
  warn : ∀ text w, story (c.warn text w) = story w ++ told (.warn text)

/-- The program's own records are not meant for scripts. -/
theorem Log.Record.of_target_ne (level : Level) (part : String) (fields : List String) (message : String) :
    (Record.of level part fields message).target ≠ scriptTarget := by
  unfold Record.of scriptTarget programTarget
  dsimp only
  split
  · decide
  · intro h
    have hlength := congrArg String.length h
    have hprogram : (toString "nasl_exec").length = 9 := by decide
    have hscript : "nasl".length = 4 := by decide
    rw [String.length_append, String.length_append, hprogram, hscript] at hlength
    omega

namespace Launch

variable {c : Collaborators σ κ} {launcher : Launcher} {req : Request}

section

variable {story : σ → List β} {told : Event κ → List β} (before : List β)

/-- The story goes on from `before` by what is told of the calls that were noted. -/
def Follows (story : σ → List β) (told : Event κ → List β) (before : List β)
    (s : σ × List (Event κ)) : Prop :=
  story s.1 = before ++ s.2.flatMap told

theorem follows_append {w w' : σ} {es : List (Event κ)} {e : Event κ}
    (h : story w' = story w ++ told e) :
    Follows story told before (w', es ++ [e]) = Follows story told before (w, es) := by
  have htold : (es ++ [e]).flatMap told = es.flatMap told ++ told e := by simp
  unfold Follows
  rw [h, htold, ← List.append_assoc, List.append_left_inj]

theorem follows_keeps (h : c.Narrates story told) :
    c.traced.KeepsAside (Follows story told before) where
  keeps := {
    log := fun record s => follows_append before (h.log record s.1)
    becomeUser := fun user s => follows_append before (h.becomeUser user s.1)
    find := fun name s => follows_append before (h.find name s.1)
    spawn := fun plan s => follows_append before (h.spawn plan s.1)
    outputs := fun chunk child s => follows_append before (h.outputs chunk child s.1)
    warn := fun text s => follows_append before (h.warn text s.1) }
  change path s := follows_append before (h.change path s.1)
  error text s := follows_append before (h.error text s.1)

/-- After a launch the story has gone on by what is told of its calls. -/
theorem run_narrates (h : c.Narrates story told) (w : σ) :
    story (run c launcher req w).2 = story w ++ (trace c launcher req w).flatMap told := by
  have hstart : Follows story told (story w) (w, []) := (List.append_nil _).symm
  have hsetSlot : ∀ slot s, Follows story told (story w) (c.traced.setSlot slot s) =
      Follows story told (story w) s :=
    fun slot s => follows_append (story w) (h.setSlot slot s.1)
  have hend : Follows story told (story w) (run c.traced launcher req (w, [])).2 :=
    (run_keeps (follows_keeps (story w) h) hsetSlot (w, [])) ▸ hstart
  rw [run_traced] at hend
  exact hend

end

/-! ## Errors -/

/-- The directory to which a launch could not go back, and why. -/
def failedReturn? (c : Collaborators σ κ) (launcher : Launcher) (req : Request) (w : σ) :
    Option (Path × IoError) :=
  match Event.changes (trace c launcher req w) with
  | [(_, .ok ()), (dir, .error cause)] => some (dir, cause)
  | _ => none

/-- A launch reports an error just when it cannot go back. -/
theorem errors_trace {δ : Type} {cwd : σ → δ} (hc : KeepsDir c cwd) (w : σ) :
    Event.errors (trace c launcher req w) =
      (failedReturn? c launcher req w).toList.map fun failed => restoreError failed.1 failed.2 := by
  have hjourney := @run_journey _ _ _ c launcher req cwd hc w
  unfold failedReturn?
  generalize Event.changes (trace c launcher req w) = changes at hjourney ⊢
  generalize Event.errors (trace c launcher req w) = errors at hjourney ⊢
  generalize cwd (run c launcher req w).2 = here at hjourney
  cases hjourney <;> rfl

/-! ## Records -/

/-- The call writes nothing to the log that is meant for scripts. -/
def Event.KeepsLog : Event κ → Prop
  | .log record => record.target ≠ Log.scriptTarget
  | _ => True

/-- Some calls write nothing to the log that is meant for scripts. -/
def KeepLog (es : List (Event κ)) : Prop :=
  ∀ e ∈ es, e.KeepsLog

@[simp]
theorem keepLog_nil : KeepLog ([] : List (Event κ)) := nofun

@[simp]
theorem keepLog_cons {e : Event κ} {es : List (Event κ)} : KeepLog (e :: es) ↔ e.KeepsLog ∧ KeepLog es :=
  List.forall_mem_cons

@[simp]
theorem keepLog_append {es fs : List (Event κ)} : KeepLog (es ++ fs) ↔ KeepLog es ∧ KeepLog fs :=
  List.forall_mem_append

variable {pid? : κ → Option Nat} {es : List (Event κ)} {outcome : Outcome}

theorem UserCalls.keepLog {answer : Except ExecError Unit} (h : UserCalls launcher req es answer) :
    KeepLog es := by
  cases h <;> simp [Event.KeepsLog, launcherRecord, Log.Record.of_target_ne]

theorem LookupCalls.keepLog {answer : Except ExecError Path} (h : LookupCalls launcher req es answer) :
    KeepLog es := by
  cases h <;> simp [Event.KeepsLog]

theorem SaveCalls.keepLog {saved : Except IoError Path} (h : SaveCalls es saved) : KeepLog es := by
  cases h <;> simp [Event.KeepsLog, DirectoryContext.record, Log.Record.of_target_ne]

theorem BackCalls.keepLog {home : Option Path} (h : BackCalls home es) : KeepLog es := by
  cases h <;> simp [Event.KeepsLog, DirectoryContext.record, Log.Record.of_target_ne]

theorem Located.keepLog {program : Path} (h : Located launcher req program es) : KeepLog es := by
  cases h with
  | intro _ huser hlookup => exact keepLog_append.mpr ⟨huser.keepLog, hlookup.keepLog⟩

theorem Ready.keepLog {program : Path} {home : Option Path} (h : Ready launcher req program home es) :
    KeepLog es := by
  cases h with
  | stays hlocated => exact hlocated.keepLog
  | @moves _ _ saved hlocated _ hsave =>
    cases saved <;>
      simp [hlocated.keepLog, hsave.keepLog, entry, saveReport, Event.KeepsLog, DirectoryContext.record,
        Log.Record.of_target_ne]

theorem drainRecords_target (result : Except ExecError Bytes) (d : Drain) :
    ∀ record ∈ drainRecords result d, record.target ≠ Log.scriptTarget := by
  intro record hrecord
  unfold drainRecords at hrecord
  dsimp only at hrecord
  split at hrecord <;> rcases List.mem_append.mp hrecord with hread | hlast
  case h_1.inl | h_2.inl =>
    obtain ⟨size, -, hsize⟩ := List.mem_filterMap.mp hread
    obtain ⟨n, -, rfl⟩ := Option.map_eq_some_iff.mp hsize
    split <;> exact Log.Record.of_target_ne _ _ _ _
  case h_1.inr | h_2.inr =>
    rw [List.mem_singleton.mp hlast]
    exact Log.Record.of_target_ne _ _ _ _

theorem reading_keepLog (child : κ) (outputs : Outputs) : KeepLog (reading launcher child outputs) := by
  have hdrain : ∀ result d, KeepLog ((drainRecords result d).map (.log : Log.Record → Event κ)) := by
    intro result d e he
    obtain ⟨record, hrecord, rfl⟩ := List.mem_map.mp he
    exact drainRecords_target result d record hrecord
  simp [reading, hdrain, Event.KeepsLog, launcherRecord, Log.Record.of_target_ne]

theorem ChildCalls.keepLog {program : Path} (h : ChildCalls pid? launcher req program es outcome) :
    KeepLog es := by
  cases h with
  | notSpawned => simp [Event.KeepsLog]
  | drained child outputs =>
    have hnote : KeepLog (childNote pid? child) := by
      unfold childNote
      split <;> simp [Event.KeepsLog]
    simp [hnote, reading_keepLog, creation, Event.KeepsLog, launcherRecord, Log.Record.of_target_ne]

theorem Settled.keepLog {home : Option Path} {held : Bool}
    (h : Settled pid? launcher req home held es outcome) : KeepLog es := by
  cases h with
  | busy hready => simp [hready.keepLog, refusal, Event.KeepsLog, guardRecord, Log.Record.of_target_ne]
  | held hready hchild =>
    have hnamed : KeepLog (namedReport req : List (Event κ)) := by
      unfold namedReport
      split <;> simp [Event.KeepsLog]
    simp [hready.keepLog, hchild.keepLog, hnamed, acquisition, Event.KeepsLog, guardRecord,
      Log.Record.of_target_ne]

theorem EarlyFailure.keepLog {e : ExecError} (h : EarlyFailure launcher req es e) : KeepLog es := by
  cases h with
  | invalid => exact keepLog_nil
  | denied _ huser => exact huser.keepLog
  | missed _ huser hlookup => exact keepLog_append.mpr ⟨huser.keepLog, hlookup.keepLog⟩
  | barred hlocated _ hsave => simp [hlocated.keepLog, hsave.keepLog, Event.KeepsLog]

theorem Course.keepLog (h : Course pid? launcher req es outcome) : KeepLog es := by
  cases h with
  | early hearly => exact hearly.keepLog
  | @settled _ held _ _ outcome hsettled hback =>
    have hrecord : (outcomeRecord outcome).target ≠ Log.scriptTarget := by
      cases outcome <;> exact Log.Record.of_target_ne _ _ _ _
    have hparting : KeepLog (parting held outcome : List (Event κ)) := by
      unfold parting
      split <;> simp [Event.KeepsLog, guardRecord, Log.Record.of_target_ne, hrecord]
    simp [hsettled.keepLog, hback.keepLog, hparting]

/-- What a launch writes to the log is not meant for scripts. -/
theorem trace_keepLog (w : σ) : KeepLog (trace c launcher req w) :=
  (run_course c launcher req w).keepLog

end Launch

end ScriptExec
