-- SUMMARY: The programs of the system that scripts use.
import ScriptExec.Host.Layout
import ScriptExec.Shell.Machine
import ScriptExec.Shell.Pattern

/-!
# Utilities

Each utility gets its arguments and a machine, and gives back the machine with its status. Complaints
start with the name the utility was called by.
-/

namespace ScriptExec.Shell.Utility

open Host

/-- The text of an error without its number. -/
def causeText : IoError → String
  | .os code => IoError.systemName code
  | cause => cause.message

/-- Bytes as they stand in a complaint. -/
def shown (bytes : Bytes) : String :=
  Utf8.decodeLossy bytes

/-- Writes to the output. -/
def emit (self : Bytes) (m : Machine) (bytes : Bytes) : Machine :=
  match m.write 1 bytes with
  | .ok m => m
  | .error cause => (m.complain s!"{shown self}: write error: {causeText cause}").withStatus 1

/-- Complains and fails. -/
def fail (self : Bytes) (m : Machine) (text : String) : Machine :=
  (m.complain s!"{shown self}: {text}").withStatus 1

/-- The flags at the start of some arguments, and the arguments after them. -/
def flagsOf : List Bytes → List UInt8 × List Bytes
  | [] => ([], [])
  | arg :: rest =>
    if arg == [Byte.minus, Byte.minus] then ([], rest)
    else
      match arg with
      | 0x2d :: b :: more =>
        let (flags, operands) := flagsOf rest
        (b :: more ++ flags, operands)
      | _ => ([], arg :: rest)

/-- The lines of a text, without their ends. -/
def lines (text : Bytes) : List Bytes :=
  match text.getLast? with
  | none => []
  | some last =>
    (if last == Byte.newline then text.dropLast else text).splitOn Byte.newline

def unlines (rows : List Bytes) : Bytes :=
  rows.flatMap fun row => row ++ [Byte.newline]

/-- The content of a file argument; `-` stands for the input. -/
def contentOf (m : Machine) (path : Path) (limit : Option Nat) : Except IoError (Bytes × Machine) :=
  if path == [Byte.minus] then m.read 0 limit
  else do
    let (id, node) ← m.sys.tree.resolve m.sys.cwd true path
    System.checkOpen { read := true } node
    return (← Machine.contentFrom m.sys id 0 limit, m)

/-- Treats every file argument, or the input if there is none. -/
def forEachInput (m : Machine) (paths : List Path) (limit : Option Nat)
    (treat : Machine → Path → Bytes → Machine) (complaint : Path → IoError → String)
    (self : Bytes) : Machine :=
  (if paths.isEmpty then [[Byte.minus]] else paths).foldl
    (fun m path =>
      match contentOf m path limit with
      | .ok (bytes, m) => treat m path bytes
      | .error cause => fail self m (complaint path cause))
    (m.withStatus 0)

def plainComplaint (path : Path) (cause : IoError) : String :=
  s!"{shown path}: {causeText cause}"

def openComplaint (path : Path) (cause : IoError) : String :=
  if cause == .isDirectory then s!"error reading '{shown path}': {causeText cause}"
  else s!"cannot open '{shown path}' for reading: {causeText cause}"

/-! ## Text -/

def cat (self : Bytes) (args : List Bytes) (m : Machine) : Machine :=
  forEachInput m (flagsOf args).2 none (fun m _ bytes => emit self m bytes) plainComplaint self

/-- How much of a file `head` and `tail` show: whether in bytes or lines, and the count. -/
structure Extent where
  inBytes : Bool
  /-- Whether the count was given with a plus sign. -/
  fromStart : Bool
  count : Nat

/-- Reads the options of `head` and `tail`. -/
def extentOf (extent : Extent) : List Bytes → Extent × List Bytes
  | [0x2d, 0x63] :: n :: rest => extentOf (counted true n) rest
  | [0x2d, 0x6e] :: n :: rest => extentOf (counted false n) rest
  | (0x2d :: 0x63 :: n) :: rest => extentOf (counted true n) rest
  | (0x2d :: 0x6e :: n) :: rest => extentOf (counted false n) rest
  | (0x2d :: b :: n) :: rest =>
    if Byte.isDigit b then extentOf (counted false (b :: n)) rest else (extent, rest)
  | rest => (extent, rest)
where
  counted (inBytes : Bool) : Bytes → Extent
    | 0x2b :: n => ⟨inBytes, true, Decimal.toNat n⟩
    | n => ⟨inBytes, false, Decimal.toNat (n.filter Byte.isDigit)⟩

def head (self : Bytes) (args : List Bytes) (m : Machine) : Machine :=
  let (extent, paths) := extentOf ⟨false, false, 10⟩ args
  let cut (bytes : Bytes) : Bytes :=
    if extent.inBytes then bytes.take extent.count
    else
      let rows := lines bytes
      if extent.count < rows.length then unlines (rows.take extent.count) else bytes
  forEachInput m paths (if extent.inBytes then some extent.count else none)
    (fun m _ bytes => emit self m (cut bytes)) openComplaint self

def tail (self : Bytes) (args : List Bytes) (m : Machine) : Machine :=
  let (extent, paths) := extentOf ⟨false, false, 10⟩ args
  let cut (bytes : Bytes) : Bytes :=
    if extent.inBytes then
      bytes.drop (if extent.fromStart then extent.count - 1 else bytes.length - extent.count)
    else
      let ends := bytes.getLast? == some Byte.newline
      let rows := lines bytes
      let kept := rows.drop
        (if extent.fromStart then extent.count - 1 else rows.length - extent.count)
      if ends then unlines kept else (unlines kept).dropLast
  forEachInput m paths none (fun m _ bytes => emit self m (cut bytes)) openComplaint self

def tr (self : Bytes) (args : List Bytes) (m : Machine) : Machine :=
  let (flags, sets) := flagsOf args
  match m.read 0 none with
  | .error cause => fail self m s!"read error: {causeText cause}"
  | .ok (input, m) =>
    let m := m.withStatus 0
    match sets with
    | [set] =>
      if flags.contains 0x64 then
        let drop := byteSet set
        emit self m (input.filter fun b => !drop.contains b)
      else fail self m s!"missing operand after '{shown set}'"
    | [set, other] => emit self m (translate (byteSet set) (byteSet other) input)
    | _ => fail self m "missing operand"

def wc (self : Bytes) (args : List Bytes) (m : Machine) : Machine :=
  let (flags, paths) := flagsOf args
  let counts (bytes : Bytes) : List Nat :=
    let words := (bytes.splitBy fun b c => Byte.isBlank b == Byte.isBlank c).filter
      fun group => !group.all Byte.isBlank
    (if flags.isEmpty || flags.contains 0x6c then [bytes.count Byte.newline] else []) ++
      (if flags.isEmpty || flags.contains 0x77 then [words.length] else []) ++
      if flags.isEmpty || flags.contains 0x63 then [bytes.length] else []
  let padded (n : Nat) : Bytes :=
    let digits := Decimal.ofNat n
    List.replicate (7 - digits.length) Byte.space ++ digits
  let row (path : Path) (bytes : Bytes) : Bytes :=
    let columns := counts bytes
    let width := if columns.length == 1 then Decimal.ofNat else padded
    List.intercalate [Byte.space] (columns.map width) ++
      (if path == [Byte.minus] then [] else Byte.space :: path) ++ [Byte.newline]
  forEachInput m paths none (fun m path bytes => emit self m (row path bytes)) plainComplaint self

def grep (self : Bytes) (args : List Bytes) (m : Machine) : Machine :=
  let (flags, operands) := flagsOf args
  match operands with
  | [] => (m.complain s!"Usage: {shown self} [OPTION]... PATTERNS [FILE]...").withStatus 2
  | text :: paths =>
    let wanted := charsOf text
    let found (row : Bytes) : Bool :=
      let hit := if flags.contains 0x46 then (Pattern.mk false false
          (wanted.map fun c => (.char c, false))).accepts (charsOf row)
        else ((Pattern.parse? wanted).map (·.accepts (charsOf row))).getD false
      hit != flags.contains 0x76
    let name (path : Path) : Bytes :=
      if paths.length < 2 then [] else path ++ [Byte.colon]
    let treat (m : Machine) (path : Path) (bytes : Bytes) : Machine :=
      let hits := (lines bytes).zipIdx.filter fun entry => found entry.1
      let m := if hits.isEmpty || m.status == 2 then m else m.withStatus 0
      if flags.contains 0x71 then m
      else if flags.contains 0x63 then
        emit self m (name path ++ Decimal.ofNat hits.length ++ [Byte.newline])
      else emit self m (hits.flatMap fun (row, i) =>
        let number := if flags.contains 0x6e then Decimal.ofNat (i + 1) ++ [Byte.colon] else []
        name path ++ number ++ row ++ [Byte.newline])
    (if paths.isEmpty then [[Byte.minus]] else paths).foldl
      (fun m path =>
        match contentOf m path none with
        | .ok (bytes, m) => treat m path bytes
        | .error cause => (fail self m (plainComplaint path cause)).withStatus 2)
      (m.withStatus 1)

def seq (self : Bytes) (args : List Bytes) (m : Machine) : Machine :=
  let count (first step last : Int) : List Int :=
    if step = 0 then []
    else (List.range ((last - first) / step + 1).toNat).map fun (i : Nat) => first + step * i
  let numbers := match args.map leadingNumber with
    | [last] => count 1 1 last
    | [first, last] => count first 1 last
    | [first, step, last] => count first step last
    | _ => []
  emit self (m.withStatus 0) (unlines (numbers.map Decimal.ofInt))

def yes (self : Bytes) (args : List Bytes) (m : Machine) : Machine :=
  let row := (if args.isEmpty then [0x79] else List.intercalate [Byte.space] args) ++ [Byte.newline]
  emit self (m.withStatus 0) (List.replicate (Machine.endless / row.length) row).flatten

def sort (self : Bytes) (args : List Bytes) (m : Machine) : Machine :=
  let (flags, paths) := flagsOf args
  let order (rows : List Bytes) : List Bytes :=
    let sorted := if flags.contains 0x6e then rows.mergeSort fun a b => leadingNumber a ≤ leadingNumber b
      else rows.mergeSort fun a b => a ≤ b
    if flags.contains 0x72 then sorted.reverse else sorted
  forEachInput m paths none (fun m _ bytes => emit self m (unlines (order (lines bytes))))
    (fun path cause => s!"cannot read: {plainComplaint path cause}") self

/-! ## Files -/

/-- Changes the files, or complains. -/
def change (self : Bytes) (m : Machine) (result : Except IoError FileTree)
    (complaint : IoError → String) : Machine :=
  match result with
  | .ok tree => { m with sys := { m.sys with tree } }
  | .error cause => fail self m (complaint cause)

def touch (self : Bytes) (args : List Bytes) (m : Machine) : Machine :=
  (flagsOf args).2.foldl
    (fun m path =>
      if (m.sys.tree.resolve m.sys.cwd true path).toOption.isSome then m
      else change self m ((m.sys.openNode path { write := true, create := true } 0o644).map (·.2))
        fun cause => s!"cannot touch '{shown path}': {causeText cause}")
    (m.withStatus 0)

/-- Removes a directory with all that is in it. -/
def removeAll (fuel : Nat) (sys : System) (path : Path) : Except IoError FileTree :=
  match fuel with
  | 0 => .error .busy
  | fuel + 1 => do
    let (_, node) ← sys.tree.resolve sys.cwd false path
    match node.content with
    | .directory _ entries _ =>
      let tree ← entries.foldlM
        (fun tree entry => removeAll fuel { sys with tree } (Path.join path entry.1)) sys.tree
      tree.removeDirectory sys.cwd path
    | _ => sys.tree.unlink sys.cwd path

def rm (self : Bytes) (args : List Bytes) (m : Machine) : Machine :=
  let (flags, paths) := flagsOf args
  let recursive := flags.contains 0x72 || flags.contains 0x52
  let force := flags.contains 0x66
  paths.foldl
    (fun m path =>
      let result := if recursive then removeAll m.sys.tree.nodes.length m.sys path
        else m.sys.tree.unlink m.sys.cwd path
      if force && result.toOption.isNone && (m.sys.tree.resolve m.sys.cwd false path).toOption.isNone then m
      else change self m result fun cause => s!"cannot remove '{shown path}': {causeText cause}")
    (m.withStatus 0)

def rmdir (self : Bytes) (args : List Bytes) (m : Machine) : Machine :=
  (flagsOf args).2.foldl
    (fun m path =>
      change self m (m.sys.tree.removeDirectory m.sys.cwd path)
        fun cause => s!"failed to remove '{shown path}': {causeText cause}")
    (m.withStatus 0)

def mkdir (self : Bytes) (args : List Bytes) (m : Machine) : Machine :=
  let (flags, paths) := flagsOf args
  let make (sys : System) (path : Path) : Except IoError FileTree := do
    let place ← sys.tree.locate sys.cwd true path
    match place.node with
    | some _ => .error .exists_
    | none => return (← sys.tree.createDirectory place.dir place.name).2
  let makeAll (sys : System) (path : Path) : Except IoError FileTree :=
    ((List.range (Path.names path).length).foldlM
      (fun tree i =>
        let above := Path.joinAll (if Path.isAbsolute path then Path.root else [])
          ((Path.names path).take (i + 1))
        match make { sys with tree } above with
        | .error cause => if cause == .exists_ then .ok tree else .error cause
        | made => made)
      sys.tree)
  paths.foldl
    (fun m path =>
      change self m (if flags.contains 0x70 then makeAll m.sys path else make m.sys path)
        fun cause => s!"cannot create directory '{shown path}': {causeText cause}")
    (m.withStatus 0)

def mv (self : Bytes) (args : List Bytes) (m : Machine) : Machine :=
  match (flagsOf args).2 with
  | [source, target] =>
    let moved : Except IoError FileTree := do
      let old ← m.sys.tree.locate m.sys.cwd false source
      if old.node.isNone then .error .noEntry
      else
        let new ← m.sys.tree.locate m.sys.cwd true target
        match new.node.bind m.sys.tree.node? with
        | some node =>
          if node.isDirectory then
            m.sys.tree.rename old (← m.sys.tree.locate m.sys.cwd false (Path.join target old.name))
          else m.sys.tree.rename old new
        | none => m.sys.tree.rename old new
    change self (m.withStatus 0) moved fun cause => s!"cannot stat '{shown source}': {causeText cause}"
  | _ => fail self m "missing file operand"

def cp (self : Bytes) (args : List Bytes) (m : Machine) : Machine :=
  match (flagsOf args).2 with
  | [source, target] =>
    let copied : Except IoError FileTree := do
      let (_, node) ← m.sys.tree.resolve m.sys.cwd true source
      m.sys.tree.plantNode m.sys.cwd target node
    change self (m.withStatus 0) copied fun cause => s!"cannot stat '{shown source}': {causeText cause}"
  | _ => fail self m "missing file operand"

def ln (self : Bytes) (args : List Bytes) (m : Machine) : Machine :=
  match flagsOf args with
  | (flags, [target, path]) =>
    if flags.contains 0x73 then
      change self (m.withStatus 0) (m.sys.tree.plantNode m.sys.cwd path ⟨0o777, .symlink target⟩)
        fun cause => s!"failed to create symbolic link '{shown path}': {causeText cause}"
    else fail self m s!"failed to access '{shown target}': {causeText .notPermitted}"
  | _ => fail self m "missing file operand"

def chmod (self : Bytes) (args : List Bytes) (m : Machine) : Machine :=
  match args with
  | mode :: paths =>
    let digits := (charsOf mode).takeWhile isOctal
    let value := digits.foldl (fun n c => n * 8 + (c.toNat - 48)) 0
    paths.foldl
      (fun m path =>
        change self m (do
          let (id, node) ← m.sys.tree.resolve m.sys.cwd true path
          let mode := if digits.isEmpty then node.mode ||| 0o111 else value
          return m.sys.tree.setNode id { node with mode })
          fun cause => s!"cannot access '{shown path}': {causeText cause}")
      (m.withStatus 0)
  | [] => fail self m "missing operand"

/-- The directory that shows the open descriptors of whoever looks. -/
def descriptorsDir : Path := utf8 "/proc/self/fd"

/-- The names that `ls` shows for a path: whether also those with a leading dot, and whether also `.` and
`..`. -/
def listing (m : Machine) (hidden links : Bool) (path : Path) : Except IoError (List Bytes) := do
  if path == descriptorsDir then
    let open_ := m.channels.map (·.1)
    let next := (List.range (open_.length + 1)).find? fun d => !open_.contains d
    return ((next.toList ++ open_).map Decimal.ofNat).mergeSort fun a b => a ≤ b
  else
    let (_, node) ← m.sys.tree.resolve m.sys.cwd true path
    match node.content with
    | .directory _ entries _ =>
      if !node.mayRead then .error .accessDenied
      else
        let names := (if links then [Path.here, Path.above] else []) ++ entries.map (·.1)
        return (names.filter fun name => hidden || name.head? != some Byte.dot).mergeSort fun a b => a ≤ b
    | _ => return [path]

def ls (self : Bytes) (args : List Bytes) (m : Machine) : Machine :=
  let (flags, paths) := flagsOf args
  (if paths.isEmpty then [Path.here] else paths).foldl
    (fun m path =>
      let links := flags.contains 0x61
      match listing m (links || flags.contains 0x41) links path with
      | .ok names => emit self m (unlines names)
      | .error cause =>
        (fail self m s!"cannot access '{shown path}': {causeText cause}").withStatus 2)
    (m.withStatus 0)

/-! ## The rest -/

def sleep (args : List Bytes) (m : Machine) : Machine :=
  { m with clock := m.clock + (args.map microseconds).foldl (· + ·) 0 }.withStatus 0

def printenv (self : Bytes) (args : List Bytes) (m : Machine) : Machine :=
  match args with
  | [] => emit self (m.withStatus 0)
      (unlines (m.sys.env.map fun entry => utf8 entry.1 ++ [0x3d] ++ entry.2))
  | _ =>
    let values := args.map fun name => m.sys.envValue? (shown name)
    emit self (m.withStatus (if values.all (·.isSome) then 0 else 1)) (unlines (values.filterMap id))

/-- The path of the working directory, or a complaint. -/
def pwd (self : Bytes) (m : Machine) : Machine :=
  match m.sys.currentDir with
  | .ok path => emit self (m.withStatus 0) (path ++ [Byte.newline])
  | .error cause => fail self m s!"getcwd: {causeText cause}"

/-- Writes one line. -/
def line (self : Bytes) (m : Machine) (text : Bytes) : Machine :=
  emit self (m.withStatus 0) (text ++ [Byte.newline])

def basename (self : Bytes) (args : List Bytes) (m : Machine) : Machine :=
  match args with
  | path :: rest =>
    let name := (Path.names path).getLastD (if Path.isAbsolute path then Path.root else path)
    let ending := rest.headD []
    line self m (if !ending.isEmpty && ending != name && ending.isSuffixOf name then
      name.take (name.length - ending.length) else name)
  | [] => fail self m "missing operand"

def dirname (self : Bytes) (args : List Bytes) (m : Machine) : Machine :=
  match args with
  | path :: _ => line self m (match Path.parent? path with
    | some (b :: rest) => b :: rest
    | some [] => Path.here
    | none => if Path.isAbsolute path then Path.root else Path.here)
  | [] => fail self m "missing operand"

/-! ## Conditions -/

/-- Whether a path leads to a node with a property. -/
def holds (m : Machine) (follow : Bool) (path : Path) (property : Node → Bool) : Bool :=
  match m.sys.tree.resolve m.sys.cwd follow path with
  | .ok (_, node) => property node
  | .error _ => false

/-- A condition about one operand. -/
def unary? (m : Machine) (operator operand : Bytes) : Option Bool :=
  match operator with
  | [0x2d, c] =>
    match Char.ofNat c.toNat with
    | 'n' => some !operand.isEmpty
    | 'z' => some operand.isEmpty
    | 't' => some false
    | 'e' => some (holds m true operand fun _ => true)
    | 'f' => some (holds m true operand Node.isRegular)
    | 'd' => some (holds m true operand Node.isDirectory)
    | 'r' => some (holds m true operand Node.mayRead)
    | 'w' => some (holds m true operand Node.mayWrite)
    | 'x' => some (holds m true operand Node.mayExecute)
    | 's' => some (((m.sys.sizeOf? operand).getD 0) != 0)
    | 'p' => some (holds m true operand fun node => node.content == .fifo)
    | 'h' | 'L' => some (holds m false operand fun node =>
        match node.content with
        | .symlink _ => true
        | _ => false)
    | _ => none
  | _ => none

/-- A condition about two operands. -/
def binary? (left operator right : Bytes) : Option Bool :=
  let a := leadingNumber left
  let b := leadingNumber right
  match shown operator with
  | "=" | "==" => some (left == right)
  | "!=" => some (left != right)
  | "-eq" => some (a == b)
  | "-ne" => some (a != b)
  | "-lt" => some (a < b)
  | "-le" => some (a ≤ b)
  | "-gt" => some (b < a)
  | "-ge" => some (b ≤ a)
  | _ => none

/-- Whether a condition holds. -/
def condition (m : Machine) : List Bytes → Bool
  | [] => false
  | [word] => !word.isEmpty
  | [0x21] :: rest => !condition m rest
  | [operator, operand] => (unary? m operator operand).getD false
  | [left, operator, right] => (binary? left operator right).getD false
  | left :: operator :: right :: [0x2d, 0x61] :: rest =>
    (binary? left operator right).getD false && condition m rest
  | left :: operator :: right :: [0x2d, 0x6f] :: rest =>
    (binary? left operator right).getD false || condition m rest
  | operator :: operand :: [0x2d, 0x61] :: rest =>
    (unary? m operator operand).getD false && condition m rest
  | operator :: operand :: [0x2d, 0x6f] :: rest =>
    (unary? m operator operand).getD false || condition m rest
  | _ => false

def test (args : List Bytes) (m : Machine) : Machine :=
  m.withStatus (if condition m args then 0 else 1)

/-! ## All utilities -/

/-- Runs a utility. One that is not known does nothing. -/
def run (name : String) (argv : List Bytes) (m : Machine) : Machine :=
  let self := argv.headD []
  let args := argv.tail
  match name with
  | "cat" => cat self args m
  | "head" => head self args m
  | "tail" => tail self args m
  | "tr" => tr self args m
  | "wc" => wc self args m
  | "grep" => grep self args m
  | "seq" => seq self args m
  | "yes" => yes self args m
  | "sort" => sort self args m
  | "touch" => touch self args m
  | "rm" => rm self args m
  | "rmdir" => rmdir self args m
  | "mkdir" => mkdir self args m
  | "mv" => mv self args m
  | "cp" => cp self args m
  | "ln" => ln self args m
  | "chmod" => chmod self args m
  | "ls" => ls self args m
  | "sleep" => sleep args m
  | "env" | "printenv" => printenv self args m
  | "pwd" => pwd self m
  | "basename" => basename self args m
  | "dirname" => dirname self args m
  | "echo" => emit self (m.withStatus 0) (match args with
    | [0x2d, 0x6e] :: rest => List.intercalate [Byte.space] rest
    | _ => List.intercalate [Byte.space] args ++ [Byte.newline])
  | "printf" => emit self (m.withStatus 0) (printf args)
  | "id" => line self m (utf8 (if args == [utf8 "-u"] then "0" else "uid=0(root) gid=0(root) groups=0(root)"))
  | "whoami" => line self m (utf8 "root")
  | "uname" => line self m (utf8 "Linux")
  | "test" => test args m
  | "[" => test args.dropLast m
  | "false" => m.withStatus 1
  | _ => m.withStatus 0

end ScriptExec.Shell.Utility
