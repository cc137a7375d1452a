-- SUMMARY: Builtins for programs, and calling a builtin by its name.
import ScriptExec.Builtin.Files
import ScriptExec.Builtin.Handles
import ScriptExec.Value.Array

/-!
# Calls

`pread` runs a program with the elements of an array as its arguments and gives all that the program
wrote; `find_in_path` tells whether a command is there. Any builtin is called by its name
(`Builtins.call`).
-/

namespace ScriptExec.Builtins

/-- The launch that a call of `pread` asks for, or why it asks for none. -/
def preadRequest (args : CallArgs) : Except String Request :=
  match args.textByName? "cmd", args.byName? "argv" with
  | some cmd, some argv =>
    match argv.asArray? with
    | some array =>
      .ok { cmd
            args := array.toArgList
            changeDir := args.intByName "cd" 0 != 0
            user := args.textByName? "drop_privileges_user" }
    | none => .error s!"pread: argv element must be an array ({argv.typeName})"
  | _, _ => .error "pread() usage: cmd:..., argv:..."

def pread (runtime : Runtime) (args : CallArgs) (b : Builtins) (w : World) : Called :=
  match preadRequest args with
  | .error text => b.fail text w
  | .ok req =>
    match b.executor.launchBlocking runtime req w with
    | (.ok bytes, w) => b.give (.data bytes) w
    | (.error e, w) =>
      b.fail s!"pread: {e.message}"
        (w.record (.of .debug "builtins::process" ["cmd", "error"] "pread failed"))

def findInPath (args : CallArgs) (b : Builtins) (w : World) : Called :=
  match args.textByNum? 0 with
  | none => b.fail "find_in_path() usage: cmd" w
  | some cmd =>
    let (found, w) := b.executor.find cmd w
    b.give (.int (if found.isSome then 1 else 0)) w

/-- Calls a builtin. -/
def perform (builtin : Builtin) (runtime : Runtime) (args : CallArgs) (b : Builtins) (w : World) :
    Called :=
  match builtin with
  | .pread => b.pread runtime args w
  | .findInPath => b.findInPath args w
  | .fread => b.fread args w
  | .fwrite => b.fwrite args w
  | .unlink => b.unlink args w
  | .getTmpDir => b.getTmpDir w
  | .fileStat => b.fileStat args w
  | .fileOpen => b.fileOpen args w
  | .fileClose => b.fileClose args w
  | .fileRead => b.fileRead args w
  | .fileWrite => b.fileWrite args w
  | .fileSeek => b.fileSeek args w

/-- Calls the builtin of a name; a name without a builtin is a failure like any other. -/
def call (name : String) (runtime : Runtime) (args : CallArgs) (b : Builtins) (w : World) : Called :=
  match Builtin.ofName? name with
  | some builtin =>
    perform builtin runtime args b (w.record (.of .trace "builtins" ["builtin"] "calling builtin"))
  | none => b.fail s!"{name}: unknown builtin" w

end ScriptExec.Builtins
