-- SUMMARY: Which program a path or a name starts, and with which arguments.
import ScriptExec.Host.System
import ScriptExec.ArgList

/-!
# Programs

A path starts a program of the system, or a script: a file whose first line names an interpreter,
which is started in its place. A name without a slash is tried in every entry of the search path of
the process. An entry that may not be used is remembered while the next ones are tried; an entry
that fails in an unforeseen way ends the search. Entries that are themselves too long for a path are left out
(`Program.inEntries`).
-/

namespace ScriptExec.Host

/-- A program to run: its name among the programs of the system, and its arguments. -/
structure Program where
  utility : String
  argv : List Bytes
  deriving DecidableEq, Repr, Inhabited

namespace Program

/-! ## Interpreters -/

/-- How many bytes of a script are looked at for its interpreter. -/
def headLength : Nat := 256

/-- How many interpreters may be scripts themselves. -/
def maxInterpreters : Nat := 5

def isSpaceOrTab (b : UInt8) : Bool :=
  b == 0x20 || b == 0x09

/-- Text without spaces and tabs at its end. -/
def trimEnd (text : Bytes) : Bytes :=
  (text.reverse.dropWhile isSpaceOrTab).reverse

/-- The interpreter that a script names after `#!`, and the one argument that may follow. A line that
is cut off within the name of the interpreter names none. -/
def interpreter? (script : Bytes) : Option (Path × Option Bytes) :=
  match script.take headLength with
  | 0x23 :: 0x21 :: rest =>
    let line := rest.takeWhile (· != Byte.newline)
    let isCut := line.length == rest.length && headLength ≤ script.length
    let text := (trimEnd line).dropWhile isSpaceOrTab
    let name := text.takeWhile fun b => !isSpaceOrTab b && b != Byte.nul
    let after := text.drop name.length
    let arg := (after.takeWhile (· != Byte.nul)).dropWhile isSpaceOrTab
    if name.isEmpty || (isCut && (line.dropWhile isSpaceOrTab).length == name.length) then none
    else some (name, if arg.isEmpty then none else some arg)
  | _ => none

/-- The file that a path leads to, if it may be executed. -/
def executable (sys : System) (path : Path) : Except IoError Content := do
  let (id, node) ← sys.tree.resolve sys.cwd true path
  if !node.isRegular || !node.mayExecute then .error .accessDenied
  else if sys.descriptors.any fun entry => entry.2.node == id && entry.2.writable then
    .error .textFileBusy
  else return node.content

/-- Finds the program that a path starts. `scripts` bounds how many scripts may stand before it. -/
def follow (sys : System) (scripts : Nat) (path : Path) (argv : List Bytes) :
    Except IoError Program := do
  match ← executable sys path with
  | .utility utility => return { utility, argv }
  | .regular bytes =>
    match interpreter? bytes with
    | some (name, arg) =>
      match scripts with
      | 0 => .error .tooManyLinks
      | scripts + 1 => follow sys scripts name (name :: arg.toList ++ path :: argv.tail)
    | none => .error .notExecutable
  | _ => .error .accessDenied

/-! ## Starting -/

/-- An argument must be shorter than this, its end mark included. -/
def maxArgument : Nat := 131072

/-- The most that all arguments and the environment may take up together. -/
def maxArguments : Nat := 2097152

/-- Whether arguments fit together with an environment. -/
def fits (env : Named Bytes) (argv : List Bytes) : Bool :=
  let arguments := argv.map fun arg => arg.length + 1
  let settings := env.map fun entry => (utf8 entry.1).length + entry.2.length + 2
  (arguments ++ settings).all (· ≤ maxArgument) &&
    (arguments ++ settings).foldl (fun n m => n + m + 8) 0 ≤ maxArguments

/-- Starts what a path leads to. -/
def ofPath (sys : System) (path : Path) (argv : List Bytes) : Except IoError Program :=
  if fits sys.env argv then follow sys maxInterpreters path argv
  else
    match sys.tree.resolve sys.cwd true path with
    | .error cause => .error cause
    | .ok _ => .error .argumentsTooLong

/-- Failures after which the next entry of the search path is tried. -/
def isMiss (cause : IoError) : Bool :=
  cause == .accessDenied || cause == .noEntry || cause == .notDirectory || cause == .os 116 ||
    cause == .os 19 || cause == .os 110

/-- Tries the entries of a search path one after the other. Entries of `FileTree.maxPath` bytes or more are not
provided for: the system passes over them, while here they end the search, as any path of that length does. -/
def inEntries (sys : System) (name : Bytes) (argv : List Bytes) (denied : Bool) :
    List Bytes → Except IoError Program
  | [] => .error (if denied then .accessDenied else .noEntry)
  | entry :: rest =>
    let path := if entry.isEmpty then name else entry ++ [Byte.slash] ++ name
    match ofPath sys path argv with
    | .ok program => .ok program
    | .error cause =>
      if isMiss cause then inEntries sys name argv (denied || cause == .accessDenied) rest
      else .error cause

/-- The search path of a process that has set none. -/
def defaultSearchPath : Bytes := utf8 "/bin:/usr/bin"

/-- Starts the program of a name: a name with a slash is a path. A name that is too long for any file is
cut off where that can be told. -/
def ofName (sys : System) (name : Bytes) (argv : List Bytes) : Except IoError Program :=
  if name.isEmpty then .error .noEntry
  else if name.contains Byte.slash then ofPath sys name argv
  else
    inEntries sys (name.take (FileTree.maxName + 1)) argv false
      (((sys.envValue? "PATH").getD defaultSearchPath).splitOn Byte.colon)

end Program

/-! ## Children -/

/-- A process that has been created and not yet been waited for. -/
structure Child where
  pid : Nat
  program : Program
  /-- Its working directory. -/
  cwd : NodeId
  env : Named Bytes
  deriving Repr

namespace System

/-- The descriptors it takes to create a child: its input, and both ends of two pipes. -/
def spawnDescriptors : Nat := 5

/-- Creates a child. -/
def spawn (sys : System) (plan : SpawnPlan) : Except IoError (Child × System) := do
  if plan.program.contains Byte.nul || plan.argv.any (·.contains Byte.nul) then
    .error .nulInArgument
  else if !sys.hasFree spawnDescriptors then .error .tooManyFiles
  else
    let program ← Program.ofName sys plan.program plan.argv
    return ({ pid := sys.nextPid, program, cwd := sys.cwd, env := sys.env },
      { sys with nextPid := sys.nextPid + 1 })

end System

end ScriptExec.Host
