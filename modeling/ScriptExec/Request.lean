-- SUMMARY: What a launch is asked to do, and which requests are refused outright.
import ScriptExec.ArgList
import ScriptExec.ExecError
import ScriptExec.Text.Quoted

/-!
# Launch requests

A request names the command, its arguments, whether to run it from its own directory, and the user
to run it as. The program that runs is always the command; the first argument only sets the name the
program sees.
-/

namespace ScriptExec

structure Request where
  cmd : String
  args : ArgList := {}
  /-- Run the child from the directory that contains the command. -/
  changeDir : Bool := false
  /-- Become this user before the child is created. -/
  user : Option String := none
  deriving Repr, Inhabited

namespace Request

/-- Refuses what can never be launched, before anything is done: an empty command, and one that holds
a NUL. -/
def validate (req : Request) : Except ExecError Unit :=
  if req.cmd.isEmpty then
    .error (.validation "pread() usage: cmd:..., argv:...")
  else if req.cmd.toList.contains '\x00' then
    .error (.validation s!"pread: command {Text.quoted req.cmd} contains a NUL byte")
  else
    .ok ()

end Request

end ScriptExec
