-- SUMMARY: The ways in which a launch or the whole program can fail, and their messages.
import ScriptExec.IoError
import ScriptExec.Text.Utf8

/-!
# Errors of launches and of the program

`ExecError` lists every way in which a single launch can fail. `ProgramError` adds what can go wrong
around it: the configuration, and input and output. A directory that cannot be put back is in neither
list: it is reported, and the launch keeps its outcome.
-/

namespace ScriptExec

inductive ExecError
  /-- The request can never be launched; nothing has been done yet. -/
  | validation (text : String)
  /-- An earlier launch still holds the guard. -/
  | reentrancy (pid : Option Nat)
  /-- The command was not found while its directory was looked for. -/
  | resolution (name : String)
  /-- The working directory could not be changed to the command's. -/
  | directory (dir : Bytes) (cause : IoError)
  /-- The change of user was refused. -/
  | privilegeDrop (reason : String)
  /-- The child could not be created. -/
  | spawn (cmd : String) (cause : IoError)
  /-- Reading the child's output failed after so many bytes. -/
  | capture (count : Nat) (cause : IoError)
  deriving DecidableEq, Repr

namespace ExecError

/-- How a message shows a process number that may be missing. -/
def pidText : Option Nat → String
  | some pid => s!"Some({pid})"
  | none => "None"

def message : ExecError → String
  | .validation text => text
  | .reentrancy pid => s!"pread is not reentrant (pid {pidText pid} still tracked)"
  | .resolution name => s!"'{name}' not found in PATH"
  | .directory dir cause => s!"could not chdir to {Utf8.decodeLossy dir}: {cause.message}"
  | .privilegeDrop reason => s!"drop_privileges: {reason}"
  | .spawn cmd cause => s!"failed to spawn '{cmd}': {cause.message}"
  | .capture count cause => s!"reading child output failed after {count} bytes: {cause.message}"

/-- The failure of the system below the error, if there is one. -/
def cause? : ExecError → Option IoError
  | .directory _ cause => some cause
  | .spawn _ cause => some cause
  | .capture _ cause => some cause
  | _ => none

end ExecError

inductive ProgramError
  /-- A value of the configuration is out of its range. -/
  | config (text : String)
  | io (cause : IoError)
  /-- The configuration is no valid document, or not of the expected shape. -/
  | toml
  | exec (error : ExecError)
  | other (text : String)
  deriving DecidableEq, Repr

namespace ProgramError

def message : ProgramError → String
  | .config text => s!"Configuration error: {text}"
  | .io cause => s!"IO error: {cause.message}"
  | .toml => "TOML parsing error:"
  | .exec error => error.message
  | .other text => text

end ProgramError

end ScriptExec
