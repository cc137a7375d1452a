-- SUMMARY: The state of running commands: channels, output with its times, pipes and settings.
import ScriptExec.Host.Program
import ScriptExec.Multiplexer
import ScriptExec.Shell.Format

/-!
# Running commands

A machine holds what commands share (the host, and all that has been written so far) and what the
running command has for itself (its channels, settings and clock). Commands take no time but the
time they sleep. What is written is kept with the moment of writing, so the output of commands that
run side by side can be put in order afterwards (`Machine.written`).
-/

namespace ScriptExec.Shell

open Host

/-- Where a descriptor leads. -/
inductive Channel
  /-- Nothing to read; what is written is lost. -/
  | null
  /-- One of the two outputs that are captured. -/
  | captured (side : Side)
  | pipe (id : Nat)
  /-- An open file of the host. -/
  | file (d : Nat)
  deriving DecidableEq, Repr

/-- Something written to an output that others read. -/
structure Emission where
  time : Nat
  channel : Channel
  bytes : Bytes
  deriving Repr

/-- The reading end of a pipe: what is left to read, and when the last writer closed it. -/
structure Pipe where
  id : Nat
  rest : Bytes
  closed : Nat
  deriving Repr

structure Machine where
  sys : System
  /-- Newest first. -/
  emissions : List Emission := []
  pipes : List Pipe := []
  nextPipe : Nat := 0
  /-- Microseconds since the start. -/
  clock : Nat := 0
  channels : List (Nat × Channel)
  arg0 : Bytes
  positional : List Bytes := []
  /-- Settings that programs do not get to see. -/
  vars : Named Bytes := []
  traps : Named Bytes := []
  status : Nat := 0
  /-- When the last command in the background is done. -/
  background : Nat := 0
  /-- No further command runs. -/
  ended : Bool := false
  /-- A failing command ends the shell. -/
  errexit : Bool := false
  line : Nat := 1
  pid : Nat
  deriving Repr

namespace Machine

def withStatus (m : Machine) (status : Nat) : Machine :=
  { m with status }

/-- Takes over what commands share from a machine that ran on its own, and its clock. -/
def rejoin (m other : Machine) : Machine :=
  { m with
    sys := { other.sys with cwd := m.sys.cwd, env := m.sys.env }
    emissions := other.emissions
    pipes := other.pipes
    nextPipe := other.nextPipe
    clock := other.clock
    status := other.status }

/-! ## Writing -/

def channel? (m : Machine) (d : Nat) : Option Channel :=
  m.channels.lookup d

/-- Writes to a descriptor. -/
def write (m : Machine) (d : Nat) (bytes : Bytes) : Except IoError Machine :=
  match m.channel? d with
  | none => .error .badDescriptor
  | some .null => .ok m
  | some (.file file) => do
    let sys ← m.sys.write file bytes
    return { m with sys }
  | some channel =>
    .ok { m with emissions := { time := m.clock, channel, bytes } :: m.emissions }

/-- Writes a complaint; if that fails too, nobody hears of it. -/
def complain (m : Machine) (text : String) : Machine :=
  match m.write 2 (utf8 text ++ [Byte.newline]) with
  | .ok m => m
  | .error _ => m

/-- What was written to an output so far, in the order of time. -/
def written (m : Machine) (channels : List Channel) : List Emission :=
  (m.emissions.reverse.filter fun e => channels.contains e.channel && !e.bytes.isEmpty).mergeSort
    fun e f => e.time ≤ f.time

/-- Makes a pipe; nothing can be read from it before it is filled. -/
def makePipe (m : Machine) : Nat × Machine :=
  (m.nextPipe, { m with nextPipe := m.nextPipe + 1 })

/-- Lets the reading end of a pipe have what was written to it. -/
def fillPipe (m : Machine) (id : Nat) : Machine :=
  let found := m.written [.pipe id]
  let closed := found.foldl (fun t e => max t e.time) (max m.clock m.background)
  { m with
    emissions := m.emissions.filter fun e => e.channel != .pipe id
    pipes := { id, rest := (found.map (·.bytes)).flatten, closed } :: m.pipes }

/-! ## Reading -/

/-- How much is read at most from a file that never ends. -/
def endless : Nat := 262144

/-- What can be read from a file of the host from a position on. -/
def contentFrom (sys : System) (id : NodeId) (offset : Nat) (limit : Option Nat) :
    Except IoError Bytes :=
  let length := match sys.tree.bytes? id with
    | some bytes => bytes.length
    | none => endless
  System.readNode sys.tree id offset (limit.getD length)

/-- What can be read from a descriptor; up to `limit` bytes, or all. -/
def available (m : Machine) (d : Nat) (limit : Option Nat) : Except IoError Bytes :=
  let upTo (bytes : Bytes) : Bytes := match limit with
    | some n => bytes.take n
    | none => bytes
  match m.channel? d with
  | none => .error .badDescriptor
  | some .null => .ok []
  | some (.captured _) => .error .badDescriptor
  | some (.pipe id) => .ok (upTo (((m.pipes.find? (·.id == id)).map (·.rest)).getD []))
  | some (.file file) =>
    match m.sys.file? file with
    | some open_ =>
      if open_.readable then contentFrom m.sys open_.node open_.offset limit
      else .error .badDescriptor
    | none => .error .badDescriptor

/-- Goes on by `n` bytes that have been read. A reader that comes to the end of a pipe has waited until
it was closed. -/
def consume (m : Machine) (d n : Nat) : Machine :=
  match m.channel? d with
  | some (.pipe id) =>
    let pipe := m.pipes.find? (·.id == id)
    { m with
      pipes := m.pipes.map fun p => if p.id == id then { p with rest := p.rest.drop n } else p
      clock := max m.clock ((pipe.map (·.closed)).getD 0) }
  | some (.file file) =>
    match m.sys.file? file with
    | some open_ => { m with sys := m.sys.setFile file { open_ with offset := open_.offset + n } }
    | none => m
  | _ => m

/-- Reads from a descriptor; up to `limit` bytes, or all. -/
def read (m : Machine) (d : Nat) (limit : Option Nat) : Except IoError (Bytes × Machine) := do
  let bytes ← m.available d limit
  return (bytes, m.consume d bytes.length)

/-- Reads a line, without its end; tells whether it had one. -/
def readLine (m : Machine) : Bytes × Bool × Machine :=
  match m.available 0 none with
  | .ok bytes =>
    let line := bytes.takeWhile (· != Byte.newline)
    let complete := line.length < bytes.length
    (line, complete, m.consume 0 (line.length + if complete then 1 else 0))
  | .error _ => ([], false, m)

/-! ## Settings -/

/-- The value of a setting. -/
def setting? (m : Machine) (name : String) : Option Bytes :=
  match m.vars.find? name with
  | some value => some value
  | none => m.sys.envValue? name

/-- Changes a setting; programs see the change if they saw the setting before. -/
def assign (m : Machine) (name : String) (value : Bytes) : Machine :=
  if (m.sys.env.find? name).isSome then
    { m with sys := { m.sys with env := m.sys.env.insert name value } }
  else { m with vars := m.vars.insert name value }

/-- Lets programs see a setting. -/
def exportSetting (m : Machine) (name : String) (value : Option Bytes) : Machine :=
  match value <|> m.setting? name with
  | some value =>
    { m with
      vars := m.vars.erase name
      sys := { m.sys with env := m.sys.env.insert name value } }
  | none => m

def unset (m : Machine) (name : String) : Machine :=
  { m with vars := m.vars.erase name, sys := { m.sys with env := m.sys.env.erase name } }

/-- Lets a descriptor lead elsewhere. -/
def setChannel (m : Machine) (d : Nat) (channel : Channel) : Machine :=
  { m with channels := (d, channel) :: m.channels.filter fun entry => entry.1 != d }

def closeChannel (m : Machine) (d : Nat) : Machine :=
  { m with channels := m.channels.filter fun entry => entry.1 != d }

end Machine

end ScriptExec.Shell
