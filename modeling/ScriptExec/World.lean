-- SUMMARY: The state of a process: its host, its guards, what it reported and what it wrote to the log.
import ScriptExec.Guard
import ScriptExec.Host.Layout
import ScriptExec.Host.Program
import ScriptExec.Privileges

/-!
# World

All that launches and builtins change: the host as the process sees it, the slots of its guards, the
reports that scripts get, and the log.
-/

namespace ScriptExec

inductive Report.Kind
  | error
  | warning
  /-- A request to become another user. -/
  | userRequest
  deriving DecidableEq, Repr

/-- Something a script is told, or a request that was noted. -/
structure Report where
  kind : Report.Kind
  text : String
  /-- Whether the guard was held at that moment. -/
  busy : Bool
  deriving DecidableEq, Repr

/-- Where reports go. -/
inductive Sink
  /-- To the reports of the world. -/
  | recorder
  /-- To the log. -/
  | log
  deriving DecidableEq, Repr, Inhabited

structure World where
  sys : Host.System
  identity : Identity := .common
  /-- The slots of all guards; the first is the one that the whole process shares. -/
  slots : List Slot := [.idle]
  /-- Newest first. -/
  reports : List Report := []
  /-- Newest first. -/
  records : List Log.Record := []
  deriving Repr

namespace World

/-- A process that starts in an empty directory. -/
def initial (workDir : Path) (env : Named Bytes) : World :=
  { sys := .initial workDir env }

/-- Limits the numbers of descriptors; without a number, to the usual limit. -/
def limitDescriptors (w : World) (limit : Option Nat) : World :=
  { w with sys := { w.sys with limit := limit.getD Host.System.defaultLimit } }

/-- The slot of a guard. -/
def slot (w : World) (guard : Nat) : Slot :=
  (w.slots[guard]?).getD .idle

def setSlot (w : World) (guard : Nat) (slot : Slot) : World :=
  { w with slots := w.slots.set guard slot }

/-- Makes a guard with a slot of its own. -/
def newGuard (w : World) : Nat × World :=
  (w.slots.length, { w with slots := w.slots ++ [.idle] })

def record (w : World) (record : Log.Record) : World :=
  { w with records := record :: w.records }

/-- Adds a report, with the state of a guard. -/
def note (w : World) (guard : Nat) (kind : Report.Kind) (text : String) : World :=
  { w with reports := { kind, text, busy := (w.slot guard).isBusy } :: w.reports }

/-- Tells a script something. The log does not have requests for users. -/
def tell (w : World) (sink : Sink) (guard : Nat) (kind : Report.Kind) (text : String) : World :=
  match sink, kind with
  | .recorder, _ => w.note guard kind text
  | .log, .error => w.record (.forScript .error text)
  | .log, .warning => w.record (.forScript .warn text)
  | .log, .userRequest => w

/-- A world without reports and records. -/
def cleared (w : World) : World :=
  { w with reports := [], records := [] }

end World

end ScriptExec
