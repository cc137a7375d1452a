-- SUMMARY: Builtins for whole files: reading, replacing, removing, size, and the temporary directory.
import ScriptExec.Builtin
import ScriptExec.Host.Replacement

/-!
# Whole files

`fwrite` replaces a file by renaming a complete new one over it (`Host.Replacement`). `file_stat`
of a file that is not there is a question with the answer no, and not reported.
-/

namespace ScriptExec.Builtins

def fread (args : CallArgs) (b : Builtins) (w : World) : Called :=
  match args.textByNum? 0 with
  | none => b.fail "fread: need one argument (file name)" w
  | some name =>
    match w.sys.readFile (utf8 name) with
    | .ok content => b.give (.data content) w
    | .error cause => b.fail s!"fread: {name}: {cause.message}" w

/-- The text of a failure to replace a file. -/
def replaceMessage (e : Host.ReplaceError) : String :=
  match e.path with
  | some path => s!"{e.cause.message} at path {Text.quoted (Utf8.decodeLossy path)}"
  | none => e.cause.message

def fwrite (args : CallArgs) (b : Builtins) (w : World) : Called :=
  match args.bytesByName? "data", args.textByName? "file" with
  | some data, some name =>
    match w.sys.replace (utf8 name) data with
    | (.ok (), sys) => b.give (.int (Int64.ofNat data.length)) { w with sys }
    | (.error e, sys) => b.fail s!"fwrite: {name}: {replaceMessage e}" { w with sys }
  | _, _ => b.fail "fwrite: need two arguments 'data' and 'file'" w

def unlink (args : CallArgs) (b : Builtins) (w : World) : Called :=
  match args.textByNum? 0 with
  | none => b.fail "unlink: need one argument (file name)" w
  | some name =>
    match w.sys.removeFile (utf8 name) with
    | .ok sys => b.give .null { w with sys }
    | .error cause => b.fail s!"unlink({name}): {cause.message}" w

/-- The directory for temporary files, with a slash behind it. -/
def tmpDir (sys : Host.System) : String :=
  Utf8.decodeLossy ((sys.envValue? "TMPDIR").getD (utf8 "/tmp")) ++ "/"

def getTmpDir (b : Builtins) (w : World) : Called :=
  let path := tmpDir w.sys
  if w.sys.isUsable (utf8 path) then b.give (.data (utf8 path)) w
  else b.fail s!"get_tmp_dir(): {path} not available - check your installation" w

def fileStat (args : CallArgs) (b : Builtins) (w : World) : Called :=
  match args.textByNum? 0 with
  | none => b.fail "file_stat: need one argument (file name)" w
  | some name =>
    match w.sys.sizeOf? (utf8 name) with
    | some size => b.give (.int (Int64.ofNat size)) w
    | none => { value := none, builtins := b, world := w }

end ScriptExec.Builtins
