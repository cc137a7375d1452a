-- SUMMARY: Several launches at once, each going on by one step at a time.
import ScriptExec.Launch

/-!
# Launches side by side

Launches that work on one world take turns, stage by stage. Any order of turns is a schedule; a launch
that starts within a step of another one is one more launch whose turns come right after that step.
-/

namespace ScriptExec.Launch

/-- A launch with all that it goes by. -/
structure Task (σ κ : Type) where
  collaborators : Collaborators σ κ
  launcher : Launcher
  request : Request
  inFlight : InFlight κ := {}

namespace Task

variable {σ κ : Type}

/-- The next step of a launch. -/
def step (t : Task σ κ) (w : σ) : Task σ κ × σ :=
  let (inFlight, w) := Launch.step t.collaborators t.launcher t.request t.inFlight w
  ({ t with inFlight }, w)

/-- Goes on until a stage is reached at which to stop. -/
def advance (stop : Stage κ → Bool) (t : Task σ κ) (w : σ) : Task σ κ × σ :=
  let (inFlight, w) := Launch.advance t.collaborators t.launcher t.request stop t.inFlight w
  ({ t with inFlight }, w)

/-- Goes on to the end. -/
def complete (t : Task σ κ) (w : σ) : Outcome × σ :=
  Launch.complete t.collaborators t.launcher t.request t.inFlight w

end Task

variable {σ κ : Type}

/-- Gives the launch with a number its turn. -/
def turn (tasks : List (Task σ κ)) (w : σ) (i : Nat) : List (Task σ κ) × σ :=
  match tasks[i]? with
  | some task =>
    let (task, w) := task.step w
    (tasks.set i task, w)
  | none => (tasks, w)

/-- Gives turns in an order. -/
def turns (tasks : List (Task σ κ)) (w : σ) (order : List Nat) : List (Task σ κ) × σ :=
  order.foldl (fun state i => turn state.1 state.2 i) (tasks, w)

/-- Runs two launches of which the second starts, and ends, while the first waits for its child. -/
def runPair (first second : Task σ κ) (w : σ) : Outcome × Outcome × σ :=
  let (first, w) := first.advance Stage.isDraining w
  let (b, w) := second.complete w
  let (a, w) := first.complete w
  (a, b, w)

theorem turn_length (tasks : List (Task σ κ)) (w : σ) (i : Nat) :
    (turn tasks w i).1.length = tasks.length := by
  unfold turn
  split <;> simp

end ScriptExec.Launch
