-- SUMMARY: Argument lists with holes, and the argument vector a program is started with.
import ScriptExec.Bytes

/-!
# Argument lists

Arguments come from an indexable collection that may have holes. Holes are skipped when the argument
vector is built. Named entries are no arguments; only their keys are kept, so that a launch can warn
about them.

The arguments are the program's argument vector as they stand: the first is the name the program
sees, not the program that runs. Without arguments the program sees its own path.
-/

namespace ScriptExec

structure ArgList where
  /-- Arguments by position; `none` is a hole. -/
  slots : List (Option Bytes) := []
  /-- Keys of the named entries. -/
  named : List String := []
  deriving DecidableEq, Repr, Inhabited

namespace ArgList

def ofList (args : List Bytes) : ArgList :=
  { slots := args.map some }

/-- Adds an argument in the next position. -/
def push (args : ArgList) (arg : Bytes) : ArgList :=
  { args with slots := args.slots ++ [some arg] }

/-- Leaves the next position empty. -/
def pushHole (args : ArgList) : ArgList :=
  { args with slots := args.slots ++ [none] }

/-- Adds the key of a named entry. -/
def pushNamed (args : ArgList) (key : String) : ArgList :=
  { args with named := args.named ++ [key] }

/-- The number of positions, holes included. -/
def slotCount (args : ArgList) : Nat :=
  args.slots.length

/-- The arguments in order of position, without the holes. -/
def toArgv (args : ArgList) : List Bytes :=
  args.slots.filterMap id

end ArgList

/-- What to start: the program, the name it sees, and the arguments after that name. -/
structure SpawnPlan where
  program : Bytes
  arg0 : Bytes
  rest : List Bytes
  deriving DecidableEq, Repr, Inhabited

namespace SpawnPlan

/-- The plan for a program and its argument vector; an empty vector stands for the program's path
alone. -/
def ofArgv (program : Bytes) : List Bytes → SpawnPlan
  | [] => ⟨program, program, []⟩
  | arg0 :: rest => ⟨program, arg0, rest⟩

/-- The argument vector the program sees. -/
def argv (plan : SpawnPlan) : List Bytes :=
  plan.arg0 :: plan.rest

end SpawnPlan

end ScriptExec
