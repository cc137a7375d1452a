-- SUMMARY: Writing data piece by piece, whatever the single writes accept.
import ScriptExec.Bytes
import ScriptExec.IoError

/-!
# Writing

A write accepts a part of what it is offered, or fails. What is left is offered again until nothing is
left, a write accepts nothing, or a write fails for good; a write that was only interrupted is tried
again. The loop takes the answers one by one, so it can be run on any answers (`Writing.run`).
-/

namespace ScriptExec

/-- The answer to a write. -/
inductive WriteAnswer
  /-- At most so many bytes of what was offered were taken. -/
  | accepted (n : Nat)
  | failed (cause : IoError)
  deriving DecidableEq, Repr

/-- A loop of writes under way. -/
structure Writing where
  /-- What is offered next. -/
  rest : Bytes
  /-- What has been accepted, the newest piece first. -/
  accepted : List Bytes := []
  count : Nat := 0
  /-- How many writes have been made. -/
  writes : Nat := 0
  failure : Option IoError := none
  /-- The failure of a write that accepts nothing. -/
  onNothing : IoError := .simple .writeZero
  deriving DecidableEq, Repr

namespace Writing

/-- A loop that has not started. -/
def start (data : Bytes) : Writing :=
  { rest := data }

/-- Whether no further write is made. -/
def isDone (w : Writing) : Bool :=
  w.rest.isEmpty || w.failure.isSome

/-- What a piece that a write took leads to. -/
def accept (w : Writing) : Bytes → Writing
  | [] => { w with failure := some w.onNothing }
  | b :: piece =>
    { w with
      rest := w.rest.drop (piece.length + 1)
      accepted := (b :: piece) :: w.accepted
      count := w.count + (piece.length + 1) }

/-- Goes on with the answer to a write of all that is left. -/
def take (w : Writing) (answer : WriteAnswer) : Writing :=
  let w := { w with writes := w.writes + 1 }
  match answer with
  | .accepted n => w.accept (w.rest.take n)
  | .failed cause => if cause.isInterrupted then w else { w with failure := some cause }

/-- Goes on with answers until no further write is made. -/
def run (w : Writing) : List WriteAnswer → Writing
  | [] => w
  | answer :: answers => if w.isDone then w else (w.take answer).run answers

/-- All that has been accepted, in order. -/
def bytes (w : Writing) : Bytes :=
  w.accepted.reverse.flatten

/-- A write that accepts all it is offered is the last one. -/
theorem isDone_take_all (w : Writing) : (w.take (.accepted w.rest.length)).isDone = true := by
  unfold take
  cases h : w.rest with
  | nil => simp [accept, isDone]
  | cons b piece => simp [accept, isDone]

end Writing

end ScriptExec
