-- SUMMARY: The command line program.
import ScriptExec.Program

/-!
# Command line

Runs the program on its arguments and the environment it was started in, and writes what it leaves:
the captured bytes to the standard output, reports and the log to the standard error.
-/

namespace ScriptExec

/-- The environment variables that the program and its children go by. -/
def relevantVariables : List String :=
  ["HOME", "LC_ALL", Log.Filter.environmentVariable, "PATH", "TMPDIR"]

def readEnvironment : IO (Named Bytes) := do
  let entries ← relevantVariables.filterMapM fun name => do
    return (← IO.getEnv name).map fun value => (name, utf8 value)
  return Named.ofList entries

/-- Copies a file into a world, if it is there. -/
def copyFile (w : World) (path : String) : IO World := do
  try
    let content ← IO.FS.readBinFile path
    let seed := Host.Seed.file (utf8 path) content.toList Host.System.defaultFileMode
    return { w with sys := w.sys.plant w.sys.cwd seed }
  catch _ => return w

/-- The files that the configuration may be read from. -/
def configPaths (args : List Bytes) : List String :=
  match CommandLine.parse args with
  | .ok invocation => [Utf8.decodeLossy (invocation.config.getD Config.defaultPath)]
  | .error _ => []

end ScriptExec

open ScriptExec in
def main (args : List String) : IO UInt32 := do
  let args := args.map utf8
  let dir ← IO.currentDir
  let start := World.initial (utf8 dir.toString) (← readEnvironment)
  let w ← (configPaths args).foldlM copyFile start
  let outcome := Program.execute args w
  let output ← IO.getStdout
  output.write (ByteArray.mk outcome.output.toArray)
  output.flush
  for record in outcome.log do
    IO.eprintln s!"{record.level.name.toUpper} {record.target}: {record.firstLine}"
  if let some text := outcome.failure then
    IO.eprintln s!"nasl-exec error: {text}"
  return UInt32.ofNat outcome.code
