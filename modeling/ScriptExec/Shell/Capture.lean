-- SUMMARY: Running a child to its end, and its two outputs as readers.
import ScriptExec.Shell.Eval

/-!
# Captured children

A child gets nothing to read, and both its outputs are captured. What it writes comes to the readers
in the order in which it was written: the schedule asks the output that was written to next
(`Capture.schedule`).
-/

namespace ScriptExec.Shell

open Host

/-- What a child wrote, in order, each with the output it was written to. -/
abbrev Capture := List (Side × Bytes)

namespace Capture

/-- The reader of one output. -/
def reader (capture : Capture) (side : Side) : Reader :=
  (capture.filter (·.1 == side)).map fun piece => .data piece.2

/-- A reader that breaks off after some of its pieces, if it does. -/
def breakOff (reader : Reader) : Option (Nat × IoError) → Reader
  | none => reader
  | some (pieces, cause) => reader.take pieces ++ [.fail cause]

/-- Which output to ask, round by round, when so many bytes are read at a time. -/
def schedule (chunk : Nat) (capture : Capture) : Schedule :=
  capture.flatMap fun piece => List.replicate ((piece.2.length + chunk - 1) / chunk) piece.1

end Capture

/-- Bounds how deep the commands of a script are nested, and how often its loops run. -/
def defaultFuel : Nat := 1000000

/-- The machine a child starts on. It has no open files but its own channels. -/
def startMachine (sys : System) (child : Child) : Machine :=
  { sys := { sys with cwd := child.cwd, env := child.env, descriptors := [], reserved := 0
                      limit := System.defaultLimit }
    channels := [(0, .null), (1, .captured .a), (2, .captured .b)]
    arg0 := child.program.argv.headD []
    pid := child.pid }

/-- Runs a child to its end: what it writes, and the host with what it did to the files. -/
def runChild (sys : System) (child : Child) : Capture × System :=
  let m := runProgram defaultFuel (startMachine sys child) child.program
  let pieces := (m.written [.captured .a, .captured .b]).filterMap fun e =>
    match e.channel with
    | .captured side => some (side, e.bytes)
    | _ => none
  (pieces, { sys with tree := m.sys.tree })

end ScriptExec.Shell
