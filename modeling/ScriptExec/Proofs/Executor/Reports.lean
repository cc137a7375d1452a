-- SUMMARY: What scripts have been told through the sink of an executor, and what a launch adds to it.
import ScriptExec.Proofs.Executor.Calls
import ScriptExec.Proofs.Launch.Narration

/-!
# What scripts are told

Errors and warnings reach scripts through one of two sinks; the world has all that came through each of
them, in order (`World.told`). A launch adds its errors and warnings, and of errors at most one: that it
could not go back to its directory (`Executor.launchBlocking_told`).
-/

namespace ScriptExec

open Launch (Event)

/-- An error or a warning, with its text. -/
abbrev Telling := Report.Kind × String

def Report.telling? (report : Report) : Option Telling :=
  match report.kind with
  | .userRequest => none
  | kind => some (kind, report.text)

/-- What a record tells scripts, if it is meant for them. -/
def Log.Record.telling? (record : Log.Record) : Option Telling :=
  if record.target = scriptTarget then
    some (if record.level = .error then .error else .warning, record.message)
  else none

/-- All that scripts were told through a sink, in order. -/
def World.told (w : World) : Sink → List Telling
  | .recorder => w.reports.reverse.filterMap Report.telling?
  | .log => w.records.reverse.filterMap Log.Record.telling?

/-- A text as it comes through a sink: the log has no blanks at the end. -/
def Sink.shown : Sink → String → String
  | .recorder, text => text
  | .log, text => Text.trimEnd text

/-- The errors among what is told. -/
def errorsIn (news : List Telling) : List String :=
  news.filterMap fun
    | (.error, text) => some text
    | _ => none

@[simp]
theorem errorsIn_append (news more : List Telling) :
    errorsIn (news ++ more) = errorsIn news ++ errorsIn more :=
  List.filterMap_append ..

/-- What a record adds to what is told through a sink. -/
def Sink.recordTold : Sink → Log.Record → List Telling
  | .recorder, _ => []
  | .log, record => record.telling?.toList

namespace World

variable (w : World) (sink : Sink) (guard : Nat) (text : String)

theorem told_record (record : Log.Record) :
    (w.record record).told sink = w.told sink ++ sink.recordTold record := by
  cases sink with
  | recorder => exact (List.append_nil _).symm
  | log =>
    simp only [told, World.record, List.reverse_cons, List.filterMap_append, Sink.recordTold]
    cases h : record.telling? <;> simp [h]

theorem told_record_of_ne {record : Log.Record} (h : record.target ≠ Log.scriptTarget) :
    (w.record record).told sink = w.told sink := by
  rw [told_record]
  cases sink with
  | recorder => exact List.append_nil _
  | log => simp [Sink.recordTold, Log.Record.telling?, h]

@[simp]
theorem told_error : (w.tell sink guard .error text).told sink = w.told sink ++ [(.error, sink.shown text)] := by
  cases sink <;>
    simp [tell, told, note, World.record, Report.telling?, Log.Record.telling?, Log.Record.forScript,
      Sink.shown]

@[simp]
theorem told_warning :
    (w.tell sink guard .warning text).told sink = w.told sink ++ [(.warning, sink.shown text)] := by
  cases sink <;>
    simp [tell, told, note, World.record, Report.telling?, Log.Record.telling?, Log.Record.forScript,
      Sink.shown]

@[simp]
theorem told_userRequest : (w.tell sink guard .userRequest text).told sink = w.told sink := by
  cases sink <;> simp [tell, told, note, Report.telling?]

end World

namespace Executor

variable (executor : Executor) (w : World) (req : Request)

/-- What scripts are told of a call of a launch. -/
def toldOf (sink : Sink) : Event Host.Child → List Telling
  | .error text => [(.error, sink.shown text)]
  | .warn text => [(.warning, sink.shown text)]
  | .log record => sink.recordTold record
  | _ => []

theorem becomeUser_told (user : String) :
    (executor.becomeUser user w).2.told executor.sink = w.told executor.sink := by
  unfold becomeUser
  dsimp only
  split
  · rename_i record hrecord
    rw [World.told_record_of_ne, World.told_userRequest]
    unfold Identity.record? at hrecord
    split at hrecord
    · cases hrecord
      exact Log.Record.of_target_ne _ _ _ _
    · split at hrecord <;> cases hrecord
      exact Log.Record.of_target_ne _ _ _ _
  · exact World.told_userRequest w _ _ _

theorem find_told (name : String) :
    (executor.find name w).2.told executor.sink = w.told executor.sink := by
  unfold find
  dsimp only
  split
  · rename_i record hrecord
    apply World.told_record_of_ne
    unfold Lookup.record? at hrecord
    split at hrecord
    · cases hrecord
    · split at hrecord <;> cases hrecord <;> exact Log.Record.of_target_ne _ _ _ _
  · rfl

theorem narrates : executor.collaborators.Narrates (fun w => w.told executor.sink)
    (toldOf executor.sink) where
  change path w := by
    refine Eq.trans ?_ (List.append_nil _).symm
    simp only [collaborators, directories]
    split <;> rfl
  log record w := World.told_record w _ record
  becomeUser user w := (executor.becomeUser_told w user).trans (List.append_nil _).symm
  find name w := (executor.find_told w name).trans (List.append_nil _).symm
  setSlot _ _ := (List.append_nil _).symm
  spawn plan w := by
    refine Eq.trans ?_ (List.append_nil _).symm
    simp only [collaborators]
    split <;> rfl
  outputs _ _ _ := (List.append_nil _).symm
  error text w := World.told_error w _ _ text
  warn text w := World.told_warning w _ _ text

theorem errorsIn_toldOf {es : List (Event Host.Child)} (h : Launch.KeepLog es) (sink : Sink) :
    errorsIn (es.flatMap (toldOf sink)) = (Event.errors es).map sink.shown := by
  induction es with
  | nil => rfl
  | cons e es ih =>
    obtain ⟨hfirst, hrest⟩ := Launch.keepLog_cons.mp h
    rw [List.flatMap_cons, errorsIn_append, ih hrest]
    cases e with
    | log record =>
      have hnothing : sink.recordTold record = [] := by
        cases sink with
        | recorder => rfl
        | log => exact congrArg Option.toList (if_neg hfirst)
      simp [toldOf, hnothing, Event.errors, errorsIn]
    | _ => rfl

/-- What a launch tells scripts: among it an error only if it cannot go back. -/
theorem launch_told :
    ∃ news, (executor.launch req w).2.told executor.sink = w.told executor.sink ++ news ∧
      errorsIn news =
        (Launch.failedReturn? executor.collaborators executor.launcher req w).toList.map fun failed =>
          executor.sink.shown (Launch.restoreError failed.1 failed.2) := by
  refine ⟨_, Launch.run_narrates executor.narrates w, ?_⟩
  rw [errorsIn_toldOf (Launch.trace_keepLog w), Launch.errors_trace executor.keepsDir, List.map_map]
  rfl

/-- The directory to which a launch could not go back, and why, for a launch that may need a runtime of
its own. -/
def failedReturn? (runtime : Runtime) : Option (Path × IoError) :=
  if needsRuntime runtime then
    if w.sys.hasFree runtimeDescriptors then
      Launch.failedReturn? executor.collaborators executor.launcher req
        { w with sys := { w.sys with reserved := w.sys.reserved + runtimeDescriptors } }
    else none
  else Launch.failedReturn? executor.collaborators executor.launcher req w

theorem launchBlocking_told (runtime : Runtime) :
    ∃ news, (executor.launchBlocking runtime req w).2.told executor.sink =
        w.told executor.sink ++ news ∧
      errorsIn news = (executor.failedReturn? w req runtime).toList.map fun failed =>
        executor.sink.shown (Launch.restoreError failed.1 failed.2) := by
  unfold launchBlocking failedReturn?
  split
  · split
    · exact executor.launch_told _ req
    · exact ⟨[], (List.append_nil _).symm, rfl⟩
  · exact executor.launch_told w req

end Executor

end ScriptExec
