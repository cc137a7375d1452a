-- SUMMARY: The configuration: its fields, their default values, ranges, and how it is loaded.
import ScriptExec.ExecError
import ScriptExec.Log.Level
import ScriptExec.Multiplexer
import ScriptExec.Path
import ScriptExec.Text.Quoted
import ScriptExec.Toml.Parser

/-!
# Configuration

A configuration has a section on launches and one on the log. Both can be left out, and so can every
field in them; a field that is not known is an error. A section is written as a table, or as an array
of its fields in order.
-/

namespace ScriptExec

/-- How programs are launched. -/
structure ExecSection where
  /-- Privileges were dropped before, for the whole process, so launches need not drop any. -/
  dropPrivileges : Bool := false
  /-- The size of each read from a child. -/
  chunkSize : Nat := Multiplexer.defaultChunkSize
  /-- Where to look for commands, instead of the search path of the process. -/
  searchPath : Option String := none
  deriving DecidableEq, Repr, Inhabited

structure LogSection where
  /-- The level when neither the command line nor the environment gives one. -/
  level : Option String := none
  deriving DecidableEq, Repr, Inhabited

structure Config where
  exec : ExecSection := {}
  log : LogSection := {}
  deriving DecidableEq, Repr, Inhabited

/-! ## From documents -/

/-- Reads a field: it keeps its default if it is not there. -/
def Toml.field {α : Type} (read : Toml.Value → Option α) (default : α) : Option Toml.Value → Option α
  | none => some default
  | some v => read v

namespace Toml.Value

def asBool? : Toml.Value → Option Bool
  | .boolean b => some b
  | _ => none

def asText? : Toml.Value → Option String
  | .text s => some s
  | _ => none

/-- A count that fits into 64 bits. -/
def asSize? : Toml.Value → Option Nat
  | .integer (.ofNat n) => if n < UInt64.size then some n else none
  | _ => none

/-- The fields of a section in order: by their keys, of which none may be foreign, or by position. -/
def asFields? (keys : List String) : Toml.Value → Option (List (Option Toml.Value))
  | .table _ entries =>
    if entries.all (fun entry => keys.contains entry.1) then
      some (keys.map fun key => Table.find? key entries)
    else none
  | .array items => some ((List.range keys.length).map (items[·]?))
  | .tables items => some ((List.range keys.length).map fun i => items[i]?.map (.table .header))
  | _ => none

end Toml.Value

def ExecSection.ofToml? (v : Toml.Value) : Option ExecSection := do
  match ← v.asFields? ["drop_privileges", "chunk_size", "search_path"] with
  | [drop, chunk, path] =>
    return { dropPrivileges := ← Toml.field Toml.Value.asBool? false drop
             chunkSize := ← Toml.field Toml.Value.asSize? Multiplexer.defaultChunkSize chunk
             searchPath := ← Toml.field (fun v => v.asText?.map some) none path }
  | _ => none

def LogSection.ofToml? (v : Toml.Value) : Option LogSection := do
  match ← v.asFields? ["level"] with
  | [level] => return { level := ← Toml.field (fun v => v.asText?.map some) none level }
  | _ => none

namespace Config

def ofToml? (table : Toml.Table) : Option Config := do
  match ← (Toml.Value.table .header table).asFields? ["exec", "log"] with
  | [exec, log] =>
    return { exec := ← Toml.field ExecSection.ofToml? {} exec
             log := ← Toml.field LogSection.ofToml? {} log }
  | _ => none

/-- Reads the text of a configuration. -/
def parse (text : String) : Except ProgramError Config :=
  match (Toml.parse? text).bind ofToml? with
  | some config => .ok config
  | none => .error .toml

/-! ## Ranges -/

/-- The largest size of a read. -/
def maxChunkSize : Nat := 1024 * 1024

/-- Checks the ranges of all fields, and tells the first that is violated. -/
def check (config : Config) : Except ProgramError Unit := do
  let chunk := config.exec.chunkSize
  if chunk == 0 || maxChunkSize < chunk then
    .error (.config s!"[exec].chunk_size must be in 1..={maxChunkSize} (got {chunk})")
  if let some path := config.exec.searchPath then
    if (Text.trim path).isEmpty then
      .error (.config "[exec].search_path must not be empty when set")
  if let some level := config.log.level then
    if (Log.Level.ofText? level).isNone then
      .error (.config s!"[log].level must be one of error, warn, info, debug, trace (got {Text.quoted level})")

/-- A configuration within its ranges. -/
def validate (config : Config) : Except ProgramError Config := do
  config.check
  return config

/-! ## Loading -/

/-- What loading asks of the file system. -/
structure Files where
  read : Path → Except IoError Bytes
  /-- Whether a regular file is there. -/
  isFile : Path → Bool

/-- The configuration in a file, its ranges not checked. -/
def load (files : Files) (path : Path) : Except ProgramError Config :=
  match files.read path with
  | .error cause => .error (.io cause)
  | .ok bytes =>
    match Utf8.decode? bytes with
    | none => .error (.io (.custom .invalidData "stream did not contain valid UTF-8"))
    | some text => parse text

/-- The configuration in a file, within its ranges. -/
def loadValid (files : Files) (path : Path) : Except ProgramError Config := do
  (← load files path).validate

/-- Where the configuration is looked for when no file is named: in the working directory. -/
def defaultPath : Path := utf8 "nasl-exec.toml"

/-- The configuration of the named file, or of the default file if it is there, or of no file. -/
def loadOrDefault (files : Files) : Option Path → Except ProgramError Config
  | some path => loadValid files path
  | none => if files.isFile defaultPath then loadValid files defaultPath else .ok {}

end Config

end ScriptExec
