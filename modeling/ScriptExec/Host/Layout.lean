-- SUMMARY: The files a host starts with, and making files, directories and links in a tree.
import ScriptExec.Host.System

/-!
# Layout of a host

A host has the programs of the system, a few devices, a directory for temporary files, and the
directory it is worked in. More files are made from seeds (`FileTree.plant`), together with the
directories above them.
-/

namespace ScriptExec.Host

/-- Something to make in a tree. -/
inductive Seed
  | file (path : Path) (bytes : Bytes) (mode : Nat)
  | directory (path : Path)
  | link (path target : Path)
  | fifo (path : Path)
  deriving DecidableEq, Repr

namespace FileTree

/-- Goes down along names, and makes the directories that are missing. -/
def descend (tree : FileTree) (dir : NodeId) : List Bytes → Except IoError (NodeId × FileTree)
  | [] => .ok (dir, tree)
  | name :: rest =>
    match tree.locate dir true name with
    | .error cause => .error cause
    | .ok place =>
      match place.node with
      | some id => tree.descend id rest
      | none =>
        match tree.createDirectory place.dir name with
        | .error cause => .error cause
        | .ok (id, tree) => tree.descend id rest

/-- Makes a directory and those above it. -/
def descendPath (tree : FileTree) (dir : NodeId) (path : Path) : Except IoError (NodeId × FileTree) :=
  tree.descend (startOf dir path) path.names

/-- Puts a node under a path, in place of what no directory is there. -/
def plantNode (tree : FileTree) (dir : NodeId) (path : Path) (node : Node) :
    Except IoError FileTree := do
  let names := Path.names path
  let (dir, tree) ← tree.descend (startOf dir path) names.dropLast
  let name := names.getLastD []
  match tree.child? dir name with
  | some id =>
    let place ← tree.locate dir true name
    let id := place.node.getD id
    match tree.node? id with
    | some old => if old.isDirectory then .error .isDirectory else return tree.setNode id node
    | none => .error .noEntry
  | none => return (← tree.create dir name node).2

/-- Makes what a seed tells, seen from a directory. -/
def plant (tree : FileTree) (dir : NodeId) : Seed → Except IoError FileTree
  | .file path bytes mode => tree.plantNode dir path ⟨mode, .regular bytes⟩
  | .directory path => return (← tree.descendPath dir path).2
  | .link path target => tree.plantNode dir path ⟨0o777, .symlink target⟩
  | .fifo path => tree.plantNode dir path ⟨0o644, .fifo⟩

end FileTree

/-! ## Programs of the system -/

/-- The programs that every host has. -/
def utilityNames : List String :=
  ["[", "arch", "awk", "b2sum", "base32", "base64", "basename", "bash", "cat", "chgrp", "chmod",
   "chown", "cksum", "clear", "cmp", "comm", "cp", "csplit", "cut", "dash", "date", "dd", "df", "diff",
   "dir", "dircolors", "dirname", "du", "echo", "egrep", "env", "expand", "expr", "factor", "false",
   "fgrep", "find", "fmt", "fold", "getent", "grep", "groups", "gunzip", "gzip", "head", "hostid",
   "hostname", "id", "install", "join", "kill", "link", "ln", "locale", "logname", "ls", "mawk",
   "md5sum", "mkdir", "mkfifo", "mknod", "mktemp", "more", "mount", "mv", "nice", "nl", "nohup",
   "nproc", "numfmt", "od", "paste", "pathchk", "perl", "pinky", "pr", "printenv", "printf", "ps",
   "pwd", "readlink", "realpath", "rm", "rmdir", "sed", "seq", "sh", "sha1sum", "sha256sum",
   "sha512sum", "shred", "shuf", "sleep", "sort", "split", "stat", "stdbuf", "stty", "sum", "sync",
   "tac", "tail", "tar", "tee", "test", "timeout", "touch", "tr", "true", "truncate", "tsort", "tty",
   "uname", "unexpand", "uniq", "unlink", "users", "vdir", "wc", "which", "who", "whoami", "xargs",
   "yes", "zcat"]

def utilityDir : Path := utf8 "/usr/bin"

/-- The seeds of a host apart from its programs. -/
def commonSeeds : List Seed :=
  [.directory (utf8 "/usr/bin"), .link (utf8 "/bin") (utf8 "usr/bin"), .directory (utf8 "/dev"),
   .directory (utf8 "/etc"), .directory (utf8 "/tmp"), .directory (utf8 "/root"),
   .directory (utf8 "/home"), .directory (utf8 "/var/tmp")]

/-- Nodes that no seed makes. -/
def commonNodes : List (Path × Node) :=
  utilityNames.map (fun name => (Path.join utilityDir (utf8 name), ⟨0o755, .utility name⟩)) ++
    [(utf8 "/dev/null", ⟨0o666, .device .null⟩), (utf8 "/dev/zero", ⟨0o666, .device .zero⟩),
     (utf8 "/dev/full", ⟨0o666, .device .full⟩)]

/-- Applies a change that can fail; a failure leaves all as it was. -/
def FileTree.attempt (tree : FileTree) (change : FileTree → Except IoError FileTree) : FileTree :=
  match change tree with
  | .ok tree => tree
  | .error _ => tree

/-- The files every host has. -/
def FileTree.common : FileTree :=
  let tree := commonSeeds.foldl (fun tree seed => tree.attempt (·.plant 0 seed)) .empty
  commonNodes.foldl (fun tree item => tree.attempt (·.plantNode 0 item.1 item.2)) tree

namespace System

/-- A host whose working directory is an empty one. -/
def initial (workDir : Path) (env : Named Bytes) : System :=
  let (cwd, tree) := match FileTree.common.descendPath 0 workDir with
    | .ok made => made
    | .error _ => (0, FileTree.common)
  { tree, cwd, env, descriptors := [], limit := defaultLimit, nextPid := 1000 }

/-- Makes what a seed tells, seen from a directory. -/
def plant (sys : System) (dir : NodeId) (seed : Seed) : System :=
  { sys with tree := sys.tree.attempt (·.plant dir seed) }

end System

end ScriptExec.Host
