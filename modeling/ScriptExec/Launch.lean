-- SUMMARY: Launching a program and capturing its output, as a machine that goes from stage to stage.
import ScriptExec.Guard
import ScriptExec.Multiplexer
import ScriptExec.Request
import ScriptExec.WorkingDirectory

/-!
# Launches

A launch goes through stages in a fixed order: it checks the request, becomes another user, finds
the program, goes to its directory, takes the guard, creates the child, drains its output, goes back,
and frees the guard. It works on a state `σ` of the world through its collaborators, and each stage
does at most one thing with them, so launches can be interleaved stage by stage
(`Launch.Concurrent`) or be abandoned between any two stages (`Launch.abandon`).

The first stage that fails gives the outcome. From the guard on, the stages that undo what was done
are gone through whatever the outcome. Every step leads to a stage of lower rank (`step_rank_lt`),
so a launch ends.
-/

namespace ScriptExec

/-- What both outputs of a child give, and the order in which they become ready. -/
structure Outputs where
  a : Reader
  b : Reader
  schedule : Schedule
  deriving Repr, Inhabited

/-- All that a launch works through: operations on a state `σ` of the world, with children `κ`. -/
structure Collaborators (σ κ : Type) extends Directories σ where
  /-- Becomes another user, or tells why not. -/
  becomeUser : String → σ → Except String Unit × σ
  /-- Finds a command in the search path. -/
  find : String → σ → Option Path × σ
  slot : σ → Slot
  setSlot : Slot → σ → σ
  spawn : SpawnPlan → σ → Except IoError κ × σ
  pid? : κ → Option Nat
  /-- Lets a child run to the end of its outputs, which are read in pieces of a size. -/
  outputs : Nat → κ → σ → Outputs × σ
  error : String → σ → σ
  warn : String → σ → σ

/-- How programs are launched. -/
structure Launcher where
  multiplexer : Multiplexer := default
  /-- Where commands are looked up, if not in the search path of the process. -/
  searchPath : Option String := none
  /-- Privileges were dropped for the whole process, so requests for a user are ignored. -/
  privilegesDropped : Bool := false
  deriving Repr, Inhabited

namespace Launch

/-- The captured bytes, or why there are none. -/
abbrev Outcome := Except ExecError Bytes

inductive Stage (κ : Type)
  | validating
  | switchingUser
  | locating
  | savingDir (program : Path)
  | enteringDir (program : Path) (saved : Except IoError Path)
  /-- Tells that there is no directory to go back to. -/
  | reportingSave (program : Path) (cause : IoError)
  | acquiring (program : Path)
  /-- Asks which child holds the guard that could not be taken. -/
  | refused
  /-- Tells that named arguments are ignored. -/
  | warning (program : Path)
  | spawning (program : Path)
  /-- Tells the guard which child it is held for. -/
  | tracking (child : κ)
  | draining (child : κ)
  | restoring (outcome : Outcome)
  /-- Tells that the directory could not be put back. -/
  | reportingRestore (dir : Path) (cause : IoError) (outcome : Outcome)
  | releasing (outcome : Outcome)
  /-- Writes the outcome to the log. -/
  | recording (outcome : Outcome)
  | finished (outcome : Outcome)

namespace Stage

variable {κ : Type}

/-- How many stages can still come. -/
def rank : Stage κ → Nat
  | .validating => 16
  | .switchingUser => 15
  | .locating => 14
  | .savingDir _ => 13
  | .enteringDir _ _ => 12
  | .reportingSave _ _ => 11
  | .acquiring _ => 10
  | .warning _ => 9
  | .spawning _ => 8
  | .tracking _ => 7
  | .draining _ => 6
  | .refused => 5
  | .restoring _ => 4
  | .reportingRestore _ _ _ => 3
  | .releasing _ => 2
  | .recording _ => 1
  | .finished _ => 0

def outcome? : Stage κ → Option Outcome
  | .finished outcome => some outcome
  | _ => none

/-- Whether the launch waits for its child. -/
def isDraining : Stage κ → Bool
  | .draining _ => true
  | _ => false

end Stage

/-- A launch under way: its stage, the directory context it is in, and whether it holds the guard. -/
structure InFlight (κ : Type) where
  stage : Stage κ := .validating
  dir : Option DirectoryContext := none
  holdsGuard : Bool := false

namespace InFlight

variable {κ : Type}

def goTo (l : InFlight κ) (stage : Stage κ) : InFlight κ :=
  { l with stage }

end InFlight

/-! ## Messages -/

def namedWarning : String := "pread: named elements in 'cmd' are ignored!"

def saveWarning (cause : IoError) : String :=
  s!"pread(): getcwd: {cause.message}"

def restoreError (dir : Path) (cause : IoError) : String :=
  s!"pread(): chdir({Utf8.decodeLossy dir}): {cause.message}"

/-- The failure of a lookup in a search path that was given. -/
def notInSearchPath : IoError := .custom .notFound "not found in search path"

/-- A record of the launcher. -/
def launcherRecord (level : Log.Level) (fields : List String) (message : String) : Log.Record :=
  .of level "exec::launcher" fields message

/-- The last record of a launch that came to the guard. -/
def outcomeRecord : Outcome → Log.Record
  | .ok _ => launcherRecord .info ["cmd", "bytes"] "pread finished"
  | .error _ => launcherRecord .debug ["cmd", "error"] "pread failed"

def guardRecord (level : Log.Level) (fields : List String) (message : String) : Log.Record :=
  .of level "exec::guard" fields message

def drainRecord (level : Log.Level) (fields : List String) (message : String) : Log.Record :=
  .of level "exec::multiplex" fields message

/-- What the log is told about a drain: every read, and the end. -/
def drainRecords (result : Except ExecError Bytes) (d : Drain) : List Log.Record :=
  let reads := (d.a.reads ++ d.b.reads).filterMap fun size => size.map fun
    | 0 => drainRecord .trace ["stream"] "end-of-stream"
    | _ => drainRecord .trace ["stream", "n"] "read chunk"
  match result with
  | .ok _ => reads ++ [drainRecord .debug ["bytes"] "both streams reached end-of-stream"]
  | .error _ => reads ++ [launcherRecord .warn ["pid", "error"] "capturing child output failed"]

/-! ## Steps -/

section

variable {σ κ : Type} (c : Collaborators σ κ) (launcher : Launcher) (req : Request)

/-- Finds what to execute. A command that is no path is looked up here if a search path was given;
otherwise that is left to the system, unless the command's directory has to be known. -/
def locate (w : σ) : Except ExecError Path × σ :=
  if req.changeDir then
    if Path.isAbsolute (utf8 req.cmd) then (.ok (utf8 req.cmd), w)
    else
      match c.find req.cmd w with
      | (some path, w) => (.ok path, w)
      | (none, w) => (.error (.resolution req.cmd), w)
  else if launcher.searchPath.isNone || req.cmd.toList.contains '/' then (.ok (utf8 req.cmd), w)
  else
    match c.find req.cmd w with
    | (some path, w) => (.ok path, w)
    | (none, w) => (.error (.spawn req.cmd notInSearchPath), w)

/-- Becomes the user that is asked for. -/
def switchUser (w : σ) : Except ExecError Unit × σ :=
  match req.user with
  | none => (.ok (), w)
  | some user =>
    if launcher.privilegesDropped then
      (.ok (), c.log (launcherRecord .debug ["user"]
        "privileges already dropped globally; ignoring per-call user") w)
    else
      match c.becomeUser user w with
      | (.ok (), w) => (.ok (), w)
      | (.error reason, w) => (.error (.privilegeDrop reason), w)

/-- One step of a launch. -/
def step (l : InFlight κ) (w : σ) : InFlight κ × σ :=
  match l.stage with
  | .validating =>
    match req.validate with
    | .ok () => (l.goTo .switchingUser, w)
    | .error e => (l.goTo (.finished (.error e)), w)
  | .switchingUser =>
    match switchUser c launcher req w with
    | (.ok (), w) => (l.goTo .locating, w)
    | (.error e, w) => (l.goTo (.finished (.error e)), w)
  | .locating =>
    match locate c launcher req w with
    | (.ok program, w) =>
      (l.goTo (if req.changeDir then .savingDir program else .acquiring program), w)
    | (.error e, w) => (l.goTo (.finished (.error e)), w)
  | .savingDir program =>
    let (saved, w) := DirectoryContext.save c.toDirectories w
    (l.goTo (.enteringDir program saved), w)
  | .enteringDir program saved =>
    match DirectoryContext.move c.toDirectories saved (Path.containingDir program) w with
    | (.error e, w) => (l.goTo (.finished (.error e)), w)
    | (.ok context, w) =>
      ({ l with
          dir := some context
          stage := match saved with
            | .ok _ => .acquiring program
            | .error cause => .reportingSave program cause }, w)
  | .reportingSave program cause => (l.goTo (.acquiring program), c.warn (saveWarning cause) w)
  | .acquiring program =>
    match (c.slot w).acquire? with
    | some taken =>
      ({ l with stage := .warning program, holdsGuard := true },
        c.log (guardRecord .trace [] "execution guard acquired") (c.setSlot taken w))
    | none => (l.goTo .refused, c.log (guardRecord .debug ["state"] "execution guard busy") w)
  | .refused => (l.goTo (.restoring (.error (.reentrancy (c.slot w).trackedPid?))), w)
  | .warning program =>
    (l.goTo (.spawning program), if req.args.named.isEmpty then w else c.warn namedWarning w)
  | .spawning program =>
    match c.spawn (.ofArgv program req.args.toArgv) w with
    | (.error cause, w) => (l.goTo (.restoring (.error (.spawn req.cmd cause))), w)
    | (.ok child, w) =>
      (l.goTo (.tracking child),
        c.log (launcherRecord .debug ["cmd", "pid", "argc"] "spawned child") w)
  | .tracking child =>
    (l.goTo (.draining child), match c.pid? child with
      | some pid => c.setSlot (.tracking pid) w
      | none => w)
  | .draining child =>
    let (outputs, w) := c.outputs launcher.multiplexer.chunkSize child w
    let (result, d) := launcher.multiplexer.drain outputs.a outputs.b outputs.schedule
    let w := (drainRecords result d).foldl (fun w record => c.log record w) w
    (l.goTo (.restoring result),
      c.log (launcherRecord .debug ["pid", "status"] "child exited") w)
  | .restoring outcome =>
    match l.dir with
    | none => (l.goTo (.releasing outcome), w)
    | some context =>
      match context.restore c.toDirectories w with
      | (.ok (), done, w) => ({ l with stage := .releasing outcome, dir := some done }, w)
      | (.error (dir, cause), done, w) =>
        ({ l with stage := .reportingRestore dir cause outcome, dir := some done }, w)
  | .reportingRestore dir cause outcome =>
    (l.goTo (.releasing outcome), c.error (restoreError dir cause) w)
  | .releasing outcome =>
    ({ l with stage := .recording outcome, holdsGuard := false },
      if l.holdsGuard then
        c.log (guardRecord .trace [] "execution guard released") (c.setSlot .idle w)
      else w)
  | .recording outcome => (l.goTo (.finished outcome), c.log (outcomeRecord outcome) w)
  | .finished _ => (l, w)

theorem step_rank_lt (l : InFlight κ) (w : σ) (h : l.stage.outcome? = none) :
    (step c launcher req l w).1.stage.rank < l.stage.rank := by
  unfold step
  split <;> rename_i hstage <;> rw [hstage] at h ⊢
  case _ => split <;> simp [InFlight.goTo, Stage.rank]
  case _ => split <;> simp [InFlight.goTo, Stage.rank]
  case _ =>
    split
    · simp only [InFlight.goTo]; split <;> simp [Stage.rank]
    · simp [InFlight.goTo, Stage.rank]
  case _ => simp [InFlight.goTo, Stage.rank]
  case _ =>
    split
    · simp [InFlight.goTo, Stage.rank]
    · simp only []; split <;> simp [Stage.rank]
  case _ => simp [InFlight.goTo, Stage.rank]
  case _ => split <;> simp [InFlight.goTo, Stage.rank]
  case _ => simp [InFlight.goTo, Stage.rank]
  case _ => simp [InFlight.goTo, Stage.rank]
  case _ => split <;> simp [InFlight.goTo, Stage.rank]
  case _ => simp [InFlight.goTo, Stage.rank]
  case _ => simp [InFlight.goTo, Stage.rank]
  case _ =>
    split
    · simp [InFlight.goTo, Stage.rank]
    · split <;> simp [Stage.rank]
  case _ => simp [InFlight.goTo, Stage.rank]
  case _ => simp [Stage.rank]
  case _ => simp [InFlight.goTo, Stage.rank]
  case _ => simp [Stage.outcome?] at h

/-- Goes on until a stage is reached at which to stop, or until the end. -/
def advance (stop : Stage κ → Bool) (l : InFlight κ) (w : σ) : InFlight κ × σ :=
  if stop l.stage then (l, w)
  else
    if _h : l.stage.outcome? = none then
      advance stop (step c launcher req l w).1 (step c launcher req l w).2
    else (l, w)
termination_by l.stage.rank
decreasing_by exact step_rank_lt c launcher req l w _h

theorem advance_outcome (l : InFlight κ) (w : σ) :
    (advance c launcher req (fun _ => false) l w).1.stage.outcome?.isSome = true := by
  fun_induction advance c launcher req (fun _ => false) l w with
  | case1 => contradiction
  | case2 _ _ _ _ ih => exact ih
  | case3 _ _ _ h => simpa [Option.isSome_iff_ne_none] using h

/-- Goes on to the end. -/
def complete (l : InFlight κ) (w : σ) : Outcome × σ :=
  let last := advance c launcher req (fun _ => false) l w
  (last.1.stage.outcome?.get (advance_outcome c launcher req l w), last.2)

/-- Launches a program: the whole way, from the first stage to the last. -/
def run (w : σ) : Outcome × σ :=
  complete c launcher req {} w

/-- Leaves a launch where it is. What it holds is given back in the reverse order of taking it: the
guard, then the directory. -/
def abandon (l : InFlight κ) (w : σ) : σ :=
  let w := if l.holdsGuard then
      c.log (guardRecord .trace [] "execution guard released") (c.setSlot .idle w)
    else w
  match l.dir with
  | some context => context.drop c.toDirectories w
  | none => w

end

end Launch

end ScriptExec
