-- SUMMARY: The execution guard: at most one launch in flight per slot, and tables of guards and tokens.

/-!
# Execution guard

A guard is a handle on a slot; guards made from each other share it. The slot is taken by acquiring a
token and freed when the token is dropped, also when it goes because its holder failed. Acquiring
never waits. A token that is lost without being dropped keeps its slot taken for good.
-/

namespace ScriptExec

/-- Who holds the guard. -/
inductive Slot
  | idle
  /-- Taken, and no child yet. -/
  | reserved
  /-- Taken by a launch that has created this child. -/
  | tracking (pid : Nat)
  deriving DecidableEq, Repr, Inhabited

namespace Slot

def isBusy : Slot → Bool
  | .idle => false
  | _ => true

/-- The child of the holder, if there is one. -/
def trackedPid? : Slot → Option Nat
  | .tracking pid => some pid
  | _ => none

/-- Takes an idle slot. -/
def acquire? : Slot → Option Slot
  | .idle => some .reserved
  | _ => none

end Slot

/-! ## Tables -/

/-- A token and whether its owner still has it. -/
structure GuardToken where
  slot : Nat
  owned : Bool
  deriving DecidableEq, Repr, Inhabited

/-- All guards and tokens of a process. Slot 0 is the one that the whole process shares. -/
structure GuardTable where
  slots : List Slot
  /-- The slot of each guard, in the order the guards were made. -/
  guards : List Nat
  tokens : List GuardToken
  deriving Repr, Inhabited

/-- What is done with guards (`g`, `h`) and tokens (`t`). -/
inductive GuardTable.Operation
  | new
  | clone (g : Nat)
  /-- Makes a guard on the slot of the whole process. -/
  | global
  | acquire (g : Nat)
  | track (t pid : Nat)
  | drop (t : Nat)
  /-- Loses the token without dropping it. -/
  | leak (t : Nat)
  /-- Fails while owning the token, which drops it. -/
  | panic (t : Nat)
  | same (g h : Nat)
  deriving Repr

inductive GuardTable.Answer
  | guard (g : Nat)
  | token (t : Nat)
  | busy
  | done
  /-- The token is no longer owned. -/
  | gone
  | panicked
  | sameSlot (yes : Bool)
  deriving DecidableEq, Repr

namespace GuardTable

/-- The shared slot and one guard with a slot of its own. -/
def initial : GuardTable :=
  { slots := [.idle, .idle], guards := [1], tokens := [] }

/-- The state of a guard's slot. -/
def slotOf (table : GuardTable) (g : Nat) : Slot :=
  ((table.guards[g]?).bind (table.slots[·]?)).getD .idle

/-- A token that is still owned. -/
def owned? (table : GuardTable) (t : Nat) : Option GuardToken :=
  (table.tokens[t]?).filter (·.owned)

/-- Takes a token from its owner. -/
def disown (table : GuardTable) (t : Nat) : GuardTable :=
  { table with tokens := table.tokens.modify t fun token => { token with owned := false } }

def setSlot (table : GuardTable) (i : Nat) (slot : Slot) : GuardTable :=
  { table with slots := table.slots.set i slot }

/-- Frees the slot of a token that is still owned. -/
def release (table : GuardTable) (t : Nat) : GuardTable :=
  match table.owned? t with
  | some token => (table.disown t).setSlot token.slot .idle
  | none => table

/-- Adds a guard on a slot. -/
def addGuard (table : GuardTable) (slot : Nat) : Answer × GuardTable :=
  (.guard table.guards.length, { table with guards := table.guards ++ [slot] })

def acquire (table : GuardTable) (g : Nat) : Answer × GuardTable :=
  let slot := (table.guards[g]?).getD 0
  match (table.slotOf g).acquire? with
  | some taken =>
    (.token table.tokens.length,
      { table.setSlot slot taken with tokens := table.tokens ++ [⟨slot, true⟩] })
  | none => (.busy, table)

/-- One operation on guards and tokens. -/
def perform (table : GuardTable) : Operation → Answer × GuardTable
  | .new => addGuard { table with slots := table.slots ++ [.idle] } table.slots.length
  | .clone g => table.addGuard ((table.guards[g]?).getD 0)
  | .global => table.addGuard 0
  | .acquire g => table.acquire g
  | .track t pid =>
    match table.owned? t with
    | some token => (.done, table.setSlot token.slot (.tracking pid))
    | none => (.gone, table)
  | .drop t => (if (table.owned? t).isSome then .done else .gone, table.release t)
  | .leak t => (if (table.owned? t).isSome then .done else .gone, table.disown t)
  | .panic t => (.panicked, table.release t)
  | .same g h => (.sameSlot (table.guards[g]? == table.guards[h]?), table)

/-- The state of every guard, in the order they were made. -/
def states (table : GuardTable) : List Slot :=
  (List.range table.guards.length).map table.slotOf

end GuardTable

end ScriptExec
