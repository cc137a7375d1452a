-- SUMMARY: Launchers together with their guard, their sink and their privileges, at work in a world.
import ScriptExec.Config
import ScriptExec.Launch.Concurrent
import ScriptExec.SearchPath
import ScriptExec.Shell.Capture
import ScriptExec.World

/-!
# Executors

An executor is a launcher with all that it works through: the guard it takes, the sink it reports to,
and who decides about a change of user. Without further settings it takes the guard that the whole
process shares, reports to the log, and asks the system.
-/

namespace ScriptExec

structure Executor where
  launcher : Launcher := {}
  /-- The number of the guard's slot. -/
  guard : Nat := 0
  sink : Sink := .log
  privileges : Privileges := .system
  deriving Repr, Inhabited

/-- Where a launch is started from: from outside all runtimes, from within a runtime of one thread or of
several threads, or as a task of a runtime. -/
inductive Runtime
  | outside
  | oneThread
  | manyThreads
  | task
  deriving DecidableEq, Repr

namespace Executor

/-- The executor that a configuration asks for. -/
def ofConfig (exec : ExecSection) : Executor :=
  { launcher :=
      { multiplexer := .ofChunkSize exec.chunkSize
        searchPath := exec.searchPath
        privilegesDropped := exec.dropPrivileges } }

/-! ## Lookup -/

/-- What a lookup of commands depends on. Names with a slash are taken from the top directory if the
working directory is gone and a search path was given. -/
def lookup (executor : Executor) (sys : Host.System) : Lookup :=
  let cwd := sys.currentDir.toOption
  let home := sys.envValue? "HOME"
  match executor.launcher.searchPath with
  | some path => { entries := some (utf8 path), cwd := some (cwd.getD Path.root), home }
  | none => { entries := sys.envValue? "PATH", cwd, home }

/-- Finds a command. -/
def find (executor : Executor) (name : String) (w : World) : Option Path × World :=
  let found := (executor.lookup w.sys).find w.sys.isExecutableFile (utf8 name)
  (found, match Lookup.record? (utf8 name) found with
    | some record => w.record record
    | none => w)

/-- Finds a command, or fails as a launch would. -/
def resolve (executor : Executor) (name : String) (w : World) : Except ExecError Path × World :=
  match executor.find name w with
  | (some path, w) => (.ok path, w)
  | (none, w) => (.error (.resolution name), w)

/-! ## Reports -/

def error (executor : Executor) (text : String) (w : World) : World :=
  w.tell executor.sink executor.guard .error text

def warn (executor : Executor) (text : String) (w : World) : World :=
  w.tell executor.sink executor.guard .warning text

/-- Asks to become another user. -/
def becomeUser (executor : Executor) (user : String) (w : World) : Except String Unit × World :=
  let w := w.tell executor.sink executor.guard .userRequest user
  (executor.privileges.decide w.identity user,
    match executor.privileges, w.identity.record? user with
    | .system, some record => w.record record
    | _, _ => w)

/-! ## Launching -/

/-- The working directory of the process. -/
def directories : Directories World where
  current w := w.sys.currentDir
  change path w :=
    match w.sys.changeDir path with
    | .ok sys => (.ok (), { w with sys })
    | .error cause => (.error cause, w)
  log record w := w.record record

/-- What the launches of an executor work through. -/
def collaborators (executor : Executor) : Collaborators World Host.Child where
  toDirectories := directories
  becomeUser := executor.becomeUser
  find := executor.find
  slot w := w.slot executor.guard
  setSlot slot w := w.setSlot executor.guard slot
  spawn plan w :=
    match w.sys.spawn plan with
    | .ok (child, sys) => (.ok child, { w with sys })
    | .error cause => (.error cause, w)
  pid? child := some child.pid
  outputs chunk child w :=
    let (capture, sys) := Shell.runChild w.sys child
    let (broken, sys) := sys.readPipe
    ({ a := Shell.Capture.breakOff (capture.reader .a) broken, b := capture.reader .b
       schedule := capture.schedule chunk },
      { w with sys })
  error := executor.error
  warn := executor.warn

/-- A launch that has not started. -/
def task (executor : Executor) (req : Request) : Launch.Task World Host.Child :=
  { collaborators := executor.collaborators, launcher := executor.launcher, request := req }

/-- Launches a program. -/
def launch (executor : Executor) (req : Request) (w : World) : Launch.Outcome × World :=
  Launch.run executor.collaborators executor.launcher req w

/-- How many descriptors a runtime takes. -/
def runtimeDescriptors : Nat := 4

/-- Whether a launch started from there needs a runtime of its own. -/
def needsRuntime : Runtime → Bool
  | .outside | .oneThread => true
  | .manyThreads | .task => false

/-- Launches a program and waits for it, with a runtime of its own where one is needed. If that cannot
be made, nothing else is done. -/
def launchBlocking (executor : Executor) (runtime : Runtime) (req : Request) (w : World) :
    Launch.Outcome × World :=
  if needsRuntime runtime then
    if w.sys.hasFree runtimeDescriptors then
      let during := { w with sys := { w.sys with reserved := w.sys.reserved + runtimeDescriptors } }
      let (outcome, after) := executor.launch req during
      (outcome, { after with sys := { after.sys with reserved := w.sys.reserved } })
    else (.error (.spawn req.cmd .tooManyFiles), w)
  else executor.launch req w

end Executor

end ScriptExec
