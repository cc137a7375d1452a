-- SUMMARY: The builtins that scripts can call, their names, and what they keep between calls.
import ScriptExec.CallArgs
import ScriptExec.Executor

/-!
# Builtins

A builtin is called with values and gives a value or nothing. Nothing means failure, of which the
script has been told already. The builtins of one context share an executor and the files they have
opened.
-/

namespace ScriptExec

inductive Builtin
  | pread
  | findInPath
  | fread
  | fwrite
  | unlink
  | getTmpDir
  | fileStat
  | fileOpen
  | fileClose
  | fileRead
  | fileWrite
  | fileSeek
  deriving DecidableEq, Repr

namespace Builtin

/-- All builtins, in the order in which they are registered. -/
def all : List Builtin :=
  [.pread, .findInPath, .fread, .fwrite, .unlink, .getTmpDir, .fileStat, .fileOpen, .fileClose,
   .fileRead, .fileWrite, .fileSeek]

/-- The name by which scripts call a builtin. -/
def name : Builtin → String
  | .pread => "pread"
  | .findInPath => "find_in_path"
  | .fread => "fread"
  | .fwrite => "fwrite"
  | .unlink => "unlink"
  | .getTmpDir => "get_tmp_dir"
  | .fileStat => "file_stat"
  | .fileOpen => "file_open"
  | .fileClose => "file_close"
  | .fileRead => "file_read"
  | .fileWrite => "file_write"
  | .fileSeek => "file_seek"

/-- The builtin of a name. -/
def ofName? (text : String) : Option Builtin :=
  all.find? fun builtin => builtin.name == text

theorem mem_all (builtin : Builtin) : builtin ∈ all := by
  cases builtin <;> simp [all]

end Builtin

/-! ## Handles -/

/-- The files that one context has opened and not closed, by their descriptors, which are the handles
scripts use. -/
structure HandleTable where
  /-- In ascending order. -/
  handles : List Nat := []
  deriving DecidableEq, Repr, Inhabited

namespace HandleTable

/-- Puts a handle in its place in ascending order. -/
def insertInto (handle : Nat) : List Nat → List Nat
  | [] => [handle]
  | h :: rest =>
    if handle < h then handle :: h :: rest
    else if handle = h then h :: rest
    else h :: insertInto handle rest

def insert (table : HandleTable) (handle : Nat) : HandleTable :=
  { handles := insertInto handle table.handles }

def erase (table : HandleTable) (handle : Nat) : HandleTable :=
  { handles := table.handles.filter (· != handle) }

/-- The handle that an integer stands for. -/
def find? (table : HandleTable) (i : Int64) : Option Nat :=
  match i.toInt with
  | .ofNat n => if table.handles.contains n then some n else none
  | .negSucc _ => none

def size (table : HandleTable) : Nat :=
  table.handles.length

theorem mem_insertInto (handle h : Nat) (handles : List Nat) :
    h ∈ insertInto handle handles ↔ h = handle ∨ h ∈ handles := by
  induction handles with
  | nil => simp [insertInto]
  | cons first rest ih =>
    simp only [insertInto]
    split
    · simp
    · split
      · rename_i heq
        subst heq
        simp
      · simp only [List.mem_cons, ih]
        constructor
        · rintro (h | h | h) <;> simp [h]
        · rintro (h | h | h) <;> simp [h]

end HandleTable

/-! ## Contexts -/

/-- The builtins of one context. -/
structure Builtins where
  executor : Executor := {}
  table : HandleTable := {}
  deriving Repr, Inhabited

/-- What a call leads to: its value, if it has one, and the context and the world after it. -/
structure Called where
  value : Option Value
  builtins : Builtins
  world : World

namespace Builtins

/-- A call that gives a value. -/
def give (b : Builtins) (v : Value) (w : World) : Called :=
  { value := some v, builtins := b, world := w }

/-- A call that fails: the script is told why. -/
def fail (b : Builtins) (text : String) (w : World) : Called :=
  { value := none, builtins := b, world := b.executor.error text w }

end Builtins

end ScriptExec
