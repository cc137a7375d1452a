-- SUMMARY: A script's session: builtins, launches, held guards and directory contexts in one world.
import ScriptExec.Builtin.Call

/-!
# Sessions

A session is what one script goes through: it calls builtins and launches programs with one executor,
may hold the executor's guard itself, and may enter directories and leave them again, the last entered
first.
-/

namespace ScriptExec

structure Session where
  world : World
  builtins : Builtins := {}
  /-- How many tokens of the executor's guard the session holds. -/
  tokens : Nat := 0
  /-- The directory contexts the session is in, the newest first. -/
  contexts : List DirectoryContext := []

namespace Session

def executor (s : Session) : Executor :=
  s.builtins.executor

/-- The state of the executor's guard. -/
def slot (s : Session) : Slot :=
  s.world.slot s.executor.guard

def setSlot (s : Session) (slot : Slot) : Session :=
  { s with world := s.world.setSlot s.executor.guard slot }

/-! ## Builtins and launches -/

/-- Calls a builtin. -/
def call (s : Session) (name : String) (runtime : Runtime) (args : CallArgs) :
    Option Value × Session :=
  let called := s.builtins.call name runtime args s.world
  (called.value, { s with builtins := called.builtins, world := called.world })

/-- Launches a program. -/
def launch (s : Session) (runtime : Runtime) (req : Request) : Launch.Outcome × Session :=
  let (outcome, world) := s.executor.launchBlocking runtime req s.world
  (outcome, { s with world })

/-- Launches two programs, the second while the first runs. -/
def launchPair (s : Session) (first second : Request) :
    Launch.Outcome × Launch.Outcome × Session :=
  let (a, b, world) := Launch.runPair (s.executor.task first) (s.executor.task second) s.world
  (a, b, { s with world })

/-- Finds a command. -/
def find (s : Session) (name : String) : Option Path × Session :=
  let (found, world) := s.executor.find name s.world
  (found, { s with world })

/-- Finds a command, or fails as a launch would. -/
def resolve (s : Session) (name : String) : Except ExecError Path × Session :=
  let (found, world) := s.executor.resolve name s.world
  (found, { s with world })

/-! ## The guard -/

/-- Takes the guard, if it is idle. -/
def hold (s : Session) : Bool × Session :=
  match s.slot.acquire? with
  | some taken => (true, { s.setSlot taken with tokens := s.tokens + 1 })
  | none => (false, s)

/-- Lets a token that is held track a child. -/
def track (s : Session) (pid : Nat) : Option Session :=
  if s.tokens = 0 then none else some (s.setSlot (.tracking pid))

/-- Gives a token back. -/
def release (s : Session) : Option Session :=
  if s.tokens = 0 then none else some { s.setSlot .idle with tokens := s.tokens - 1 }

/-! ## Directories -/

/-- Goes to a directory. -/
def enter (s : Session) (dir : Path) :
    Except ExecError (DirectoryContext × Option IoError) × Session :=
  match DirectoryContext.enter Executor.directories dir s.world with
  | (.ok (context, cause), world) =>
    (.ok (context, cause), { s with world, contexts := context :: s.contexts })
  | (.error e, world) => (.error e, { s with world })

/-- Leaves the directory entered last, if there is one, and tells whether that worked. -/
def restore (s : Session) : Option (Except (Path × IoError) Unit × Session) :=
  match s.contexts with
  | [] => none
  | context :: contexts =>
    let (result, _, world) := context.restore Executor.directories s.world
    some (result, { s with world, contexts })

/-- Leaves the directory entered last, if there is one. -/
def dropContext (s : Session) : Option Session :=
  match s.contexts with
  | [] => none
  | context :: contexts =>
    some { s with world := context.drop Executor.directories s.world, contexts }

end Session

end ScriptExec
