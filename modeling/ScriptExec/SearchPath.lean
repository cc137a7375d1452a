-- SUMMARY: Looking commands up by name in a search path.
import ScriptExec.Log.Record
import ScriptExec.Path

/-!
# Search paths

A command is looked up by its name. A name of several components is a path, taken from the working
directory; any other name is tried in every entry of the search path, as the entry is written. The
first candidate that is an executable file is found.

The lookup itself only lists candidates (`Lookup.candidates`); whether a candidate is an executable
file is asked from outside.
-/

namespace ScriptExec

/-- What a lookup depends on besides the files. -/
structure Lookup where
  /-- The search path, with colons between its entries; there may be none. -/
  entries : Option Bytes
  cwd : Option Path
  /-- What `~` stands for. -/
  home : Option Bytes
  deriving DecidableEq, Repr

namespace Lookup

/-- The entries of a search path, in order. -/
def split (entries : Bytes) : List Bytes :=
  entries.splitOn Byte.colon

/-- An entry with a first component `~` replaced by the home directory, if one is known. -/
def expandHome (home : Option Bytes) (entry : Bytes) : Path :=
  match home, Path.names entry with
  | some (b :: home), first :: rest =>
    if first == [Byte.tilde] && !Path.isAbsolute entry && !Path.startsHere entry then
      Path.joinAll (b :: home) rest
    else entry
  | _, _ => entry

/-- The one candidate for a name that is a path: the path itself, or followed from a directory. -/
def fromDir (cwd name : Path) : Path :=
  if name.isAbsolute then name else Path.joinAll cwd name.names

/-- The paths to try for a name in the entries of the search path. -/
def inEntries (lookup : Lookup) (name : Bytes) : List Path :=
  match lookup.entries with
  | some entries => (split entries).map fun entry => Path.join (expandHome lookup.home entry) name
  | none => []

/-- The paths to try for a name, in order. -/
def candidates (lookup : Lookup) (name : Bytes) : List Path :=
  if name.isEmpty then []
  else
    match lookup.cwd with
    | some cwd =>
      if 1 < Path.componentCount name then [fromDir cwd name] else lookup.inEntries name
    | none => lookup.inEntries name

/-- The first candidate that is an executable file. -/
def find (isProgram : Path → Bool) (lookup : Lookup) (name : Bytes) : Option Path :=
  (lookup.candidates name).find? isProgram

/-- What the log is told about a lookup. The empty name is not looked up. -/
def record? (name : Bytes) (found : Option Path) : Option Log.Record :=
  if name.isEmpty then none
  else
    match found with
    | some _ => some (.of .trace "path" ["cmd", "path"] "found in search path")
    | none => some (.of .debug "path" ["cmd", "error"] "not found in search path")

end Lookup

end ScriptExec
