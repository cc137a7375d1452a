-- SUMMARY: A process on its host: working directory, environment, open files, and its system calls.
import ScriptExec.Host.FileTree
import ScriptExec.Named
import ScriptExec.Writing

/-!
# System

The state of a host as one of its processes sees it, and the calls the process makes: changing its
directory, opening, reading and writing files. A call that fails changes nothing.

A host need not carry out a write in full: it can be told beforehand how to answer the next writes, the
next requests to bring a file to the disk, the next questions for the status of an open file, and how
reading what the next children write breaks off. Without such answers all of them succeed.
-/

namespace ScriptExec.Host

/-- How a file is opened. -/
structure OpenOptions where
  read : Bool := false
  write : Bool := false
  /-- Every write goes to the end of the file. -/
  append : Bool := false
  truncate : Bool := false
  create : Bool := false
  deriving DecidableEq, Repr, Inhabited

/-- An open file: its node, what may be done with it, and where the next read or write starts. -/
structure OpenFile where
  node : NodeId
  readable : Bool
  writable : Bool
  append : Bool
  offset : Nat
  deriving DecidableEq, Repr, Inhabited

structure System where
  tree : FileTree
  cwd : NodeId
  env : Named Bytes
  /-- Open files by descriptor, in ascending order. -/
  descriptors : List (Nat × OpenFile)
  /-- Descriptors must be below this number. -/
  limit : Nat
  /-- How many descriptors the process has taken for its own use. -/
  reserved : Nat := 0
  /-- The number of the next process. -/
  nextPid : Nat
  /-- How the next writes are answered. -/
  writeAnswers : List WriteAnswer := []
  /-- How the next requests to bring a file to the disk fail, if they do. -/
  syncAnswers : List (Option IoError) := []
  /-- How the next questions for the status of an open file fail, if they do. -/
  statAnswers : List (Option IoError) := []
  /-- How reading what the next children write breaks off, if it does: after how many pieces, and why. -/
  pipeAnswers : List (Option (Nat × IoError)) := []
  deriving Repr

namespace System

/-- Descriptors below this number are taken for good. -/
def firstDescriptor : Nat := 32

/-- The permissions of a file that everybody may read. -/
def defaultFileMode : Nat := 0o644

/-- The limit on descriptors when none is set. -/
def defaultLimit : Nat := 1024

/-! ## Directories and the environment -/

/-- The path of the working directory. -/
def currentDir (sys : System) : Except IoError Path :=
  sys.tree.pathOf sys.cwd

/-- Makes another directory the working directory. -/
def changeDir (sys : System) (path : Path) : Except IoError System := do
  let (id, node) ← sys.tree.resolve sys.cwd true path
  if !node.isDirectory then .error .notDirectory
  else if !node.mayExecute then .error .accessDenied
  else return { sys with cwd := id }

def envValue? (sys : System) (name : String) : Option Bytes :=
  sys.env.find? name

/-- Whether a path leads to a regular file. -/
def isFile (sys : System) (path : Path) : Bool :=
  match sys.tree.resolve sys.cwd true path with
  | .ok (_, node) => node.isRegular
  | .error _ => false

/-- Whether a path leads to a regular file that may be executed. -/
def isExecutableFile (sys : System) (path : Path) : Bool :=
  match sys.tree.resolve sys.cwd true path with
  | .ok (_, node) => node.isRegular && node.mayExecute
  | .error _ => false

/-- Whether a path may be read, written and searched. -/
def isUsable (sys : System) (path : Path) : Bool :=
  match sys.tree.resolve sys.cwd true path with
  | .ok (_, node) => node.mayRead && node.mayWrite && node.mayExecute
  | .error _ => false

/-- The size that a file's status tells. -/
def sizeOf? (sys : System) (path : Path) : Option Nat :=
  match sys.tree.resolve sys.cwd true path with
  | .ok (_, node) =>
    match node.content with
    | .regular bytes => some bytes.length
    | .directory _ _ _ => some 4096
    | _ => some 0
  | .error _ => none

/-! ## Descriptors -/

/-- The lowest number from `d` on that is not in an ascending list. -/
def lowestFree (d : Nat) : List (Nat × OpenFile) → Nat
  | [] => d
  | entry :: rest => if entry.1 = d then lowestFree (d + 1) rest else d

/-- The descriptor the next opened file gets, if there is one below the limit. -/
def freeDescriptor? (sys : System) : Option Nat :=
  let d := lowestFree firstDescriptor sys.descriptors
  if d < sys.limit then some d else none

/-- Whether `n` more descriptors can be had at one time. -/
def hasFree (sys : System) (n : Nat) : Bool :=
  let used := sys.descriptors.filter fun entry => entry.1 < sys.limit
  firstDescriptor + used.length + sys.reserved + n ≤ sys.limit

/-- Puts an open file under a descriptor, in ascending order. -/
def insertDescriptor (d : Nat) (file : OpenFile) : List (Nat × OpenFile) → List (Nat × OpenFile)
  | [] => [(d, file)]
  | entry :: rest =>
    if d < entry.1 then (d, file) :: entry :: rest
    else if d = entry.1 then (d, file) :: rest
    else entry :: insertDescriptor d file rest

def file? (sys : System) (d : Nat) : Option OpenFile :=
  sys.descriptors.lookup d

def setFile (sys : System) (d : Nat) (file : OpenFile) : System :=
  { sys with descriptors := insertDescriptor d file sys.descriptors }

/-- Closes a descriptor. -/
def close (sys : System) (d : Nat) : System :=
  { sys with descriptors := sys.descriptors.filter fun entry => entry.1 != d }

/-! ## Opening -/

/-- Checks what can be told from a path alone, in the order in which it is told. -/
def checkPath (path : Path) : Except IoError Unit :=
  if path.contains Byte.nul then .error .nulInPath
  else if path.isEmpty then .error .noEntry
  else if FileTree.maxPath ≤ path.length then .error .nameTooLong
  else .ok ()

/-- Whether an existing node may be opened. -/
def checkOpen (options : OpenOptions) (node : Node) : Except IoError Unit :=
  if node.isDirectory && (options.write || options.append || options.create) then .error .isDirectory
  else if options.read && !node.mayRead then .error .accessDenied
  else if (options.write || options.append) && !node.mayWrite then .error .accessDenied
  else .ok ()

/-- The node an opened path leads to, made or emptied if the options say so. -/
def openNode (sys : System) (path : Path) (options : OpenOptions) (mode : Nat) :
    Except IoError (NodeId × FileTree) := do
  if options.create && path.getLast? == some Byte.slash then
    let bare := FileTree.withoutSlashes path
    let _ ← sys.tree.locate sys.cwd false (if bare.isEmpty then Path.root else bare)
    .error .isDirectory
  else
    let place ← sys.tree.locate sys.cwd true path
    match place.node.bind fun id => (sys.tree.node? id).map (id, ·) with
    | some (id, node) =>
      checkOpen options node
      match options.truncate, node.content with
      | true, .regular _ => return (id, sys.tree.setContent id (.regular []))
      | _, _ => return (id, sys.tree)
    | none =>
      if options.create then sys.tree.create place.dir place.name ⟨mode, .regular []⟩
      else .error .noEntry

/-- Opens a file, under the lowest free descriptor. A file that is made gets the permissions `mode`. -/
def openFile (sys : System) (path : Path) (options : OpenOptions) (mode : Nat) :
    Except IoError (Nat × System) := do
  checkPath path
  match sys.freeDescriptor? with
  | none => .error .tooManyFiles
  | some d =>
    let (node, tree) ← sys.openNode path options mode
    let file : OpenFile :=
      { node, readable := options.read, writable := options.write || options.append
        append := options.append, offset := 0 }
    return (d, { sys with tree }.setFile d file)

/-! ## Reading, writing and seeking -/

/-- Up to `n` bytes of a node from a position on. -/
def readNode (tree : FileTree) (id : NodeId) (offset n : Nat) : Except IoError Bytes :=
  match (tree.node? id).map Node.content with
  | some (.regular bytes) => .ok ((bytes.drop offset).take n)
  | some (.directory _ _ _) => .error .isDirectory
  | some (.device .null) => .ok []
  | some (.device _) => .ok (List.replicate n 0)
  | _ => .ok []

/-- Reads up to `n` bytes of an open file, and goes on by as many. -/
def read (sys : System) (d n : Nat) : Except IoError (Bytes × System) :=
  match sys.file? d with
  | none => .error .badDescriptor
  | some file =>
    if !file.readable then .error .badDescriptor
    else do
      let bytes ← readNode sys.tree file.node file.offset n
      return (bytes, sys.setFile d { file with offset := file.offset + bytes.length })

/-- Content with `data` in it from position `at_` on; a gap before it is filled with zeros. -/
def splice (content : Bytes) (at_ : Nat) (data : Bytes) : Bytes :=
  content.take at_ ++ List.replicate (at_ - content.length) 0 ++ data ++
    content.drop (at_ + data.length)

/-- A tree after data was written to a node, at a position or at its end, and where the data ends. -/
def writeNode (tree : FileTree) (id : NodeId) (offset : Nat) (append : Bool) (data : Bytes) :
    Nat × FileTree :=
  match (tree.node? id).map Node.content with
  | some (.regular bytes) =>
    let at_ := if append then bytes.length else offset
    (at_ + data.length, tree.setContent id (.regular (splice bytes at_ data)))
  | _ => (offset + data.length, tree)

/-- The open file under a descriptor, if data can be written to it. -/
def checkWrite (sys : System) (d : Nat) : Except IoError OpenFile :=
  match sys.file? d with
  | none => .error .badDescriptor
  | some file =>
    if !file.writable then .error .badDescriptor
    else
      match (sys.tree.node? file.node).map Node.content with
      | some (.device .full) => .error .noSpace
      | some (.directory _ _ _) => .error .isDirectory
      | _ => .ok file

/-- The system after all of some data was written to an open file. -/
def writeTo (sys : System) (d : Nat) (file : OpenFile) (data : Bytes) : System :=
  let (last, tree) := writeNode sys.tree file.node file.offset file.append data
  { sys with tree }.setFile d { file with offset := last }

/-- Writes data to an open file in full, or fails. -/
def write (sys : System) (d : Nat) (data : Bytes) : Except IoError System := do
  let file ← sys.checkWrite d
  return sys.writeTo d file data

/-- The answer to the next write, of which all would be accepted otherwise. -/
def answerWrite (sys : System) (data : Bytes) : WriteAnswer × System :=
  match sys.writeAnswers with
  | [] => (.accepted data.length, sys)
  | answer :: answers => (answer, { sys with writeAnswers := answers })

/-- Offers data to an open file until all of it is accepted or a write fails for good. -/
def writeAll (sys : System) (d : Nat) (data : Bytes) : Writing × System :=
  match sys.checkWrite d with
  | .error cause => ((Writing.start data).run [.failed cause], sys)
  | .ok file =>
    let done := (Writing.start data).run (sys.writeAnswers ++ [.accepted data.length])
    let sys := { sys with writeAnswers := sys.writeAnswers.drop done.writes }
    (done, if done.bytes.isEmpty then sys else sys.writeTo d file done.bytes)

/-- Brings a file to the disk, or tells why that failed. -/
def sync (sys : System) : Option IoError × System :=
  match sys.syncAnswers with
  | [] => (none, sys)
  | answer :: answers => (answer, { sys with syncAnswers := answers })

/-- Asks for the status of an open file, and tells why that failed, if it did. -/
def statOpen (sys : System) : Option IoError × System :=
  (sys.statAnswers.headD none, { sys with statAnswers := sys.statAnswers.tail })

/-- Reads what a child writes, and tells where and why that breaks off, if it does. -/
def readPipe (sys : System) : Option (Nat × IoError) × System :=
  (sys.pipeAnswers.headD none, { sys with pipeAnswers := sys.pipeAnswers.tail })

/-- The last position that can be sought in a file. -/
def maxOffset : Nat := 17592186040320

/-- Lets the next read or write start at a position. -/
def seek (sys : System) (d offset : Nat) : Except IoError System :=
  match sys.file? d with
  | none => .error .badDescriptor
  | some file =>
    match (sys.tree.node? file.node).map Node.content with
    | some .fifo => .error .illegalSeek
    | some (.regular _) =>
      if offset ≤ maxOffset then .ok (sys.setFile d { file with offset }) else .error .invalidArgument
    | _ => .ok (sys.setFile d { file with offset })

/-- The whole content of a file. -/
def readFile (sys : System) (path : Path) : Except IoError Bytes := do
  checkPath path
  match sys.freeDescriptor? with
  | none => .error .tooManyFiles
  | some _ =>
    let (_, node) ← sys.tree.resolve sys.cwd true path
    checkOpen { read := true } node
    match node.content with
    | .regular bytes => return bytes
    | .directory _ _ _ => .error .isDirectory
    | _ => return []

/-- The whole content of a file, if it can be read. -/
def content? (sys : System) (path : Path) : Option Bytes :=
  (sys.readFile path).toOption

/-- Removes the name of a file. -/
def removeFile (sys : System) (path : Path) : Except IoError System := do
  checkPath path
  return { sys with tree := ← sys.tree.unlink sys.cwd path }

end System

end ScriptExec.Host
