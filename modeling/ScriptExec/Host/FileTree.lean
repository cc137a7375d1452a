-- SUMMARY: The files of a host: nodes, directories, symbolic links, and where a path leads.
import ScriptExec.IoError
import ScriptExec.Path

/-!
# File tree

Files are nodes with numbers; directories name them. A node stays when its last name goes, since open
files still lead to it. Paths are followed name by name, through symbolic links too, of which at most
forty are followed on one way.

Permissions are those of the owner, who is also the one that asks.
-/

namespace ScriptExec.Host

abbrev NodeId := Nat

/-- Special files that any host has. -/
inductive Device
  /-- Takes everything, gives nothing. -/
  | null
  /-- Gives zeros without end. -/
  | zero
  /-- Gives zeros, and has no space for anything. -/
  | full
  deriving DecidableEq, Repr

inductive Content
  | regular (bytes : Bytes)
  /-- A directory: where `..` leads, its entries in the order they were made, and whether it still has
  a name of its own. -/
  | directory (parent : NodeId) (entries : List (Bytes × NodeId)) (linked : Bool)
  | symlink (target : Path)
  | fifo
  | device (d : Device)
  /-- A program of the system, known by its name. -/
  | utility (name : String)
  deriving DecidableEq, Repr

structure Node where
  /-- Permission bits. -/
  mode : Nat
  content : Content
  deriving DecidableEq, Repr

/-- All nodes by number. Node 0 is the top directory. -/
structure FileTree where
  nodes : List Node
  deriving Repr

namespace Node

def mayRead (node : Node) : Bool := node.mode.testBit 8
def mayWrite (node : Node) : Bool := node.mode.testBit 7
def mayExecute (node : Node) : Bool := node.mode.testBit 6

/-- Files that can be programs and configurations: regular ones, and the programs of the system. -/
def isRegular (node : Node) : Bool :=
  match node.content with
  | .regular _ | .utility _ => true
  | _ => false

def isDirectory (node : Node) : Bool :=
  match node.content with
  | .directory _ _ _ => true
  | _ => false

end Node

/-- Where a path leads: the directory of its last name, that name, and the node there, if one is. The
names `.` and `..` and the top directory have no entry to change; they come with their own name. -/
structure Place where
  dir : NodeId
  name : Bytes
  node : Option NodeId
  deriving DecidableEq, Repr

namespace FileTree

/-- A tree of the top directory alone. -/
def empty : FileTree :=
  { nodes := [⟨0o755, .directory 0 [] true⟩] }

def node? (tree : FileTree) (id : NodeId) : Option Node :=
  tree.nodes[id]?

/-- Replaces a node. -/
def setNode (tree : FileTree) (id : NodeId) (node : Node) : FileTree :=
  { nodes := tree.nodes.set id node }

/-- Replaces the content of a node. -/
def setContent (tree : FileTree) (id : NodeId) (content : Content) : FileTree :=
  { nodes := tree.nodes.modify id fun node => { node with content } }

/-- Adds a node without a name, under the next number. -/
def addNode (tree : FileTree) (node : Node) : NodeId × FileTree :=
  (tree.nodes.length, { nodes := tree.nodes ++ [node] })

theorem node?_setContent (tree : FileTree) (id id' : NodeId) (content : Content) :
    (tree.setContent id content).node? id' =
      if id = id' then (tree.node? id').map fun node => { node with content } else tree.node? id' := by
  simp [setContent, node?, List.getElem?_modify]
  split <;> simp

/-- The bytes of a regular file. -/
def bytes? (tree : FileTree) (id : NodeId) : Option Bytes :=
  match (tree.node? id).map Node.content with
  | some (.regular bytes) => some bytes
  | _ => none

/-- The entry of a name in a directory. -/
def child? (tree : FileTree) (dir : NodeId) (name : Bytes) : Option NodeId :=
  match (tree.node? dir).map Node.content with
  | some (.directory _ entries _) => entries.lookup name
  | _ => none

/-! ## Following paths -/

/-- How many symbolic links are followed on one way. -/
def maxLinks : Nat := 40

/-- The longest name of a file. -/
def maxName : Nat := 255

/-- Paths must be shorter than this. -/
def maxPath : Nat := 4096

/-- The entries of a directory that may be searched, and where its `..` leads. -/
def enter (tree : FileTree) (dir : NodeId) : Except IoError (NodeId × List (Bytes × NodeId)) :=
  match tree.node? dir with
  | some node =>
    match node.content with
    | .directory parent entries _ =>
      if node.mayExecute then .ok (parent, entries) else .error .accessDenied
    | _ => .error .notDirectory
  | none => .error .noEntry

/-- The names a path is followed by. A slash at its end asks for a directory, as a last `.` does. -/
def steps (path : Path) : List Bytes :=
  path.segments.filter (fun segment => !segment.isEmpty) ++
    if path.getLast? == some Byte.slash then [Path.here] else []

/-- Where a path starts. -/
def startOf (dir : NodeId) (path : Path) : NodeId :=
  if path.isAbsolute then 0 else dir

/-- Why a name that is too long for any file is not found; a directory without a name of its own has
no files at all. -/
def tooLong (tree : FileTree) (dir : NodeId) : IoError :=
  match (tree.node? dir).map Node.content with
  | some (.directory _ _ false) => .noEntry
  | _ => .nameTooLong

/-- Follows names from a directory. `links` counts the symbolic links that may still be followed; a
link under the last name is followed if `follow` says so. -/
def walk (tree : FileTree) (follow : Bool) (links : Nat) (dir : NodeId) :
    List Bytes → Except IoError Place
  | [] => .ok ⟨dir, [], some dir⟩
  | name :: rest =>
    match tree.enter dir with
    | .error cause => .error cause
    | .ok (parent, entries) =>
      if maxName < name.length then .error (tree.tooLong dir)
      else if name == Path.here then
        if rest.isEmpty then .ok ⟨dir, name, some dir⟩ else walk tree follow links dir rest
      else if name == Path.above then
        if rest.isEmpty then .ok ⟨dir, name, some parent⟩ else walk tree follow links parent rest
      else
        match entries.lookup name with
        | none => if rest.isEmpty then .ok ⟨dir, name, none⟩ else .error .noEntry
        | some id =>
          match (tree.node? id).map Node.content with
          | some (.symlink target) =>
            if rest.isEmpty && !follow then .ok ⟨dir, name, some id⟩
            else
              match links with
              | 0 => .error .tooManyLinks
              | links + 1 => walk tree follow links (startOf dir target) (steps target ++ rest)
          | _ =>
            if rest.isEmpty then .ok ⟨dir, name, some id⟩ else walk tree follow links id rest
termination_by names => (links, names.length)

/-- Where a path leads from a directory. -/
def locate (tree : FileTree) (dir : NodeId) (follow : Bool) (path : Path) : Except IoError Place :=
  if path.contains Byte.nul then .error .nulInPath
  else if path.isEmpty then .error .noEntry
  else if maxPath ≤ path.length then .error .nameTooLong
  else tree.walk follow maxLinks (startOf dir path) (steps path)

/-- The node a path leads to. -/
def resolve (tree : FileTree) (dir : NodeId) (follow : Bool) (path : Path) :
    Except IoError (NodeId × Node) := do
  let place ← tree.locate dir follow path
  match place.node.bind fun id => (tree.node? id).map (id, ·) with
  | some found => .ok found
  | none => .error .noEntry

/-- Whether a name occurs in a tree: in a directory, or on the way of a symbolic link. -/
def mentions (tree : FileTree) (name : Bytes) : Bool :=
  tree.nodes.any fun node =>
    match node.content with
    | .directory _ entries _ => entries.any (·.1 == name)
    | .symlink target => target.segments.contains name
    | _ => false

/-! ## Changing directories' entries -/

/-- Changes the entries of a directory. -/
def changeEntries (tree : FileTree) (dir : NodeId)
    (change : List (Bytes × NodeId) → List (Bytes × NodeId)) : FileTree :=
  match (tree.node? dir).map Node.content with
  | some (.directory parent entries linked) =>
    tree.setContent dir (.directory parent (change entries) linked)
  | _ => tree

/-- Whether a directory may get and lose entries: it must be writable, and have a name itself. -/
def checkWritable (tree : FileTree) (dir : NodeId) : Except IoError Unit :=
  match tree.node? dir with
  | some node =>
    match node.content with
    | .directory _ _ linked =>
      if !linked then .error .noEntry
      else if node.mayWrite && node.mayExecute then .ok ()
      else .error .accessDenied
    | _ => .error .notDirectory
  | none => .error .noEntry

/-- Makes a new node with a name. -/
def create (tree : FileTree) (dir : NodeId) (name : Bytes) (node : Node) :
    Except IoError (NodeId × FileTree) := do
  tree.checkWritable dir
  let (id, tree) := tree.addNode node
  return (id, tree.changeEntries dir (· ++ [(name, id)]))

/-- Removes the entry of a name. -/
def dropEntry (tree : FileTree) (dir : NodeId) (name : Bytes) : FileTree :=
  tree.changeEntries dir (·.filter fun entry => entry.1 != name)

/-- Lets a name lead to a node, whatever it led to before. -/
def putEntry (tree : FileTree) (dir : NodeId) (name : Bytes) (id : NodeId) : FileTree :=
  tree.changeEntries dir fun entries =>
    if (entries.lookup name).isSome then
      entries.map fun entry => if entry.1 == name then (name, id) else entry
    else entries ++ [(name, id)]

/-- Makes a directory with a name. -/
def createDirectory (tree : FileTree) (dir : NodeId) (name : Bytes) :
    Except IoError (NodeId × FileTree) :=
  tree.create dir name ⟨0o755, .directory dir [] true⟩

/-- A path without the slashes at its end. -/
def withoutSlashes (path : Path) : Path :=
  (path.reverse.dropWhile (· == Byte.slash)).reverse

/-- Removes a name that is not that of a directory. A slash behind the name asks for a directory, so
nothing is removed then. -/
def unlink (tree : FileTree) (dir : NodeId) (path : Path) : Except IoError FileTree := do
  let bare := withoutSlashes path
  let place ← tree.locate dir false (if bare.isEmpty then path else bare)
  match place.node.bind tree.node? with
  | none => .error .noEntry
  | some node =>
    if node.isDirectory then .error .isDirectory
    else if path.getLast? == some Byte.slash then .error .notDirectory
    else
      tree.checkWritable place.dir
      return tree.dropEntry place.dir place.name

/-- Removes an empty directory. -/
def removeDirectory (tree : FileTree) (dir : NodeId) (path : Path) : Except IoError FileTree := do
  let place ← tree.locate dir false path
  match place.node.bind fun id => (tree.node? id).map (id, ·) with
  | none => .error .noEntry
  | some (id, node) =>
    match node.content with
    | .directory parent entries _ =>
      if place.name == Path.here then .error .invalidArgument
      else if place.name == Path.above || !entries.isEmpty then .error .notEmpty
      else if place.name.isEmpty then .error .busy
      else
        tree.checkWritable place.dir
        return (tree.dropEntry place.dir place.name).setContent id (.directory parent [] false)
    | _ => .error .notDirectory

/-- Gives a node a new name, which may be in use by a node that is no directory, and takes the old name
away. -/
def rename (tree : FileTree) (source target : Place) : Except IoError FileTree := do
  let some id := source.node | .error .noEntry
  tree.checkWritable target.dir
  match target.node.bind tree.node? with
  | some node => if node.isDirectory then .error .isDirectory
  | none => pure ()
  return (tree.putEntry target.dir target.name id).dropEntry source.dir source.name

/-! ## From nodes to paths -/

/-- The names from the top down to a directory, put in front of `below`. -/
def namesOf (tree : FileTree) (fuel : Nat) (id : NodeId) (below : List Bytes) : Option (List Bytes) :=
  match fuel with
  | 0 => none
  | fuel + 1 =>
    if id = 0 then some below
    else
      match (tree.node? id).map Node.content with
      | some (.directory parent _ true) =>
        match (tree.node? parent).map Node.content with
        | some (.directory _ entries _) =>
          match entries.find? fun entry => entry.2 == id with
          | some entry => tree.namesOf fuel parent (entry.1 :: below)
          | none => none
        | _ => none
      | _ => none

/-- The path of a directory from the top; none if it has been removed. -/
def pathOf (tree : FileTree) (id : NodeId) : Except IoError Path :=
  match tree.namesOf (tree.nodes.length + 1) id [] with
  | some [] => .ok Path.root
  | some names => .ok (names.flatMap fun name => Byte.slash :: name)
  | none => .error .noEntry

end FileTree

end ScriptExec.Host
