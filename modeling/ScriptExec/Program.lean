-- SUMMARY: The program behind the command line.
import ScriptExec.Builtin.Call
import ScriptExec.CommandLine
import ScriptExec.Log.Filter

/-!
# Program

The command line names one of two commands: to launch a program and write what it wrote, or to tell
whether a command is found. The standard output carries nothing else, so it stays byte for byte what
the launched program wrote; reports go to the log.
-/

namespace ScriptExec.Program

/-- What a run leaves: the exit code, the standard output, and the world. -/
structure Finished where
  code : Nat
  output : Bytes
  world : World

/-- The launch that a command line asks for. -/
def requestOf (cd : Bool) (user : Option String) (cmd : String) (argv : List String) : Request :=
  { cmd, args := .ofList (argv.map utf8), changeDir := cd, user }

/-- Carries out a command. -/
def run (command : CommandLine.Command) (exec : ExecSection) (w : World) : Finished :=
  let executor := Executor.ofConfig exec
  match command with
  | .pread cd user cmd argv =>
    match executor.launch (requestOf cd user cmd argv) w with
    | (.ok bytes, w) => { code := 0, output := bytes, world := w }
    | (.error e, w) =>
      { code := 1, output := [], world := executor.error s!"pread: {e.message}" w }
  | .findInPath name =>
    let (found, w) := executor.find name w
    let w := w.record (.of .debug "" ["cmd", "found"] "find_in_path")
    { code := if found.isSome then 0 else 1
      output := utf8 (if found.isSome then "1\n" else "0\n")
      world := w }

/-- What a whole run of the program leaves. -/
structure Outcome where
  code : Nat
  output : Bytes := []
  /-- Why the command was not carried out. -/
  failure : Option String := none
  /-- The records that pass the filter, in order. -/
  log : List Log.Record := []

def versionText : String := "nasl-exec 0.1.0\n"

/-- The files of a host, for loading configurations. -/
def configFiles (sys : Host.System) : Config.Files :=
  { read := sys.readFile, isFile := sys.isFile }

/-- Carries out an invocation: loads the configuration, selects the log filter, and runs the command. -/
def carryOut (invocation : CommandLine.Invocation) (w : World) : Except ProgramError Outcome := do
  let config ← Config.loadOrDefault (configFiles w.sys) invocation.config
  let filter ← Log.Filter.select invocation.logLevel
    ((w.sys.envValue? Log.Filter.environmentVariable).bind Utf8.decode?) config.log.level
  let finished := run invocation.command config.exec w.cleared
  return {
    code := finished.code
    output := finished.output
    log := finished.world.records.reverse.filter filter.passes }

/-- The whole program. The arguments are those after its own name. -/
def execute (args : List Bytes) (w : World) : Outcome :=
  match CommandLine.parse args with
  | .error refusal =>
    { code := refusal.exitCode
      output := match refusal with
        | .displayVersion => utf8 versionText
        | _ => [] }
  | .ok invocation =>
    match carryOut invocation w with
    | .ok outcome => outcome
    | .error e => { code := 1, failure := some e.message }

end ScriptExec.Program
