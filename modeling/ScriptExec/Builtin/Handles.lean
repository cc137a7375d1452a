-- SUMMARY: Builtins for open files: opening, closing, reading, writing and seeking by handle.
import ScriptExec.Builtin

/-!
# Open files

A handle is the descriptor of a file that the same context has opened and not yet closed; no other
number leads to a file.
-/

namespace ScriptExec

/-- What a mode lets one do with a file; a mode that is not known only lets one read. -/
def openOptions (mode : String) : Host.OpenOptions :=
  match mode with
  | "w" => { write := true, create := true }
  | "w+" => { write := true, create := true, truncate := true }
  | "a" => { append := true, create := true }
  | "a+" => { read := true, append := true, create := true }
  | _ => { read := true }

/-- The permissions of a file that is made when it is opened. -/
def newFileMode : Nat := 0o600

namespace Builtins

def fileOpen (args : CallArgs) (b : Builtins) (w : World) : Called :=
  match args.textByName? "name", args.textByName? "mode" with
  | none, _ => b.fail "file_open: need file name argument" w
  | some _, none => b.fail "file_open: need file mode argument" w
  | some name, some mode =>
    match w.sys.openFile (utf8 name) (openOptions mode) newFileMode with
    | .error cause =>
      b.fail s!"file_open: {name}: possible symlink attack!?! {cause.message}" w
    | .ok (d, sys) =>
      match sys.statOpen with
      | (some cause, sys) =>
        b.fail s!"file_open: {name}: possible symlink attack!?! {cause.message}"
          { w with sys := sys.close d }
      | (none, sys) =>
        { b with table := b.table.insert d }.give (.int (Int64.ofNat d))
          ({ w with sys }.record
            (.of .debug "builtins::handles" ["file", "mode", "handle"] "opened file"))

def fileClose (args : CallArgs) (b : Builtins) (w : World) : Called :=
  let handle := args.intByNum 0 (-1)
  if handle < 0 then b.fail "file_close: need file pointer argument" w
  else
    match b.table.find? handle with
    | some d =>
      { b with table := b.table.erase d }.give (.int 0) { w with sys := w.sys.close d }
    | none => b.fail s!"file_close: unknown file pointer {handle.toInt}" w

/-- How many bytes a length asks for; a negative one asks for none. -/
def lengthOf (i : Int64) : Nat :=
  i.toInt.toNat

def fileRead (args : CallArgs) (b : Builtins) (w : World) : Called :=
  let handle := args.intByName "fp" (-1)
  if handle < 0 then b.fail "file_read: need file pointer argument" w
  else
    match b.table.find? handle with
    | some d =>
      let length := lengthOf (args.intByName "length" 0)
      match w.sys.read d length with
      | .ok (bytes, sys) => b.give (.data bytes) { w with sys }
      | .error _ =>
        -- whoever wants nothing does not ask the file, and does not learn that it cannot be read
        b.give (.data []) (if length = 0 then w else w.record
          (.of .debug "builtins::handles" ["handle", "error", "read"] "file_read stopped early"))
    | none => b.fail s!"file_read: unknown file pointer {handle.toInt}" w

def fileWrite (args : CallArgs) (b : Builtins) (w : World) : Called :=
  let handle := args.intByName "fp" (-1)
  match args.bytesByName? "data", decide (handle < 0) with
  | some data, false =>
    match b.table.find? handle with
    | some d =>
      let (done, sys) := w.sys.writeAll d data
      let w := { w with sys }
      let w := match done.failure with
        | some cause => b.executor.error s!"file_write: write() failed - {cause.message}" w
        | none => w
      b.give (.int (Int64.ofNat done.count)) w
    | none => b.fail s!"file_write: unknown file pointer {handle.toInt}" w
  | _, _ => b.fail "file_write: need two arguments 'fp' and 'data'" w

def fileSeek (args : CallArgs) (b : Builtins) (w : World) : Called :=
  let offset := args.intByName "offset" 0
  let handle := args.intByName "fp" (-1)
  if handle < 0 then b.fail "file_seek: need one arguments 'fp'" w
  else if offset < 0 then b.fail s!"fseek: invalid offset {offset.toInt}" w
  else
    match b.table.find? handle with
    | none => b.fail s!"file_seek: unknown file pointer {handle.toInt}" w
    | some d =>
      match w.sys.seek d offset.toInt.toNat with
      | .ok sys => b.give (.int 0) { w with sys }
      | .error cause => b.fail s!"fseek: {cause.message}" w

end Builtins

end ScriptExec
