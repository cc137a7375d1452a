-- SUMMARY: Running shell commands, scripts and programs.
import ScriptExec.Shell.Fields
import ScriptExec.Shell.Parser
import ScriptExec.Shell.Utility

/-!
# Running commands

Commands change a machine. A command in parentheses, in a pipe or in the background runs on a machine
of its own, which shares the host and the output (`Machine.rejoin`). The left side of a pipe runs
first; the right side then finds all of its output, and waits at its end until the left side is done.

`fuel` bounds how deep commands are nested and how often a loop is run.
-/

namespace ScriptExec.Shell

open Host

namespace Machine

/-- Complains in the name of the shell. -/
def protest (m : Machine) (text : String) : Machine :=
  m.complain s!"{Utility.shown m.arg0}: {m.line}: {text}"

/-- Reads the settings for a shell that starts with these arguments. -/
structure Start where
  errexit : Bool := false
  /-- The script is an argument. -/
  command : Bool := false
  input : Bool := false
  refused : Option String := none

/-- Reads the options of a shell, and gives back the other arguments. -/
def startOf (start : Start) : List Bytes → Start × List Bytes
  | [] => (start, [])
  | arg :: rest =>
    match arg with
    | 0x2d :: [] => (start, rest)
    | 0x2d :: 0x2d :: [] => (start, rest)
    | 0x2d :: flags => startOf (flags.foldl flag start) rest
    | _ => (start, arg :: rest)
where
  flag (start : Start) (b : UInt8) : Start :=
    match Char.ofNat b.toNat with
    | 'c' => { start with command := true }
    | 's' => { start with input := true }
    | 'e' => { start with errexit := true }
    | c =>
      if "xufnvaimbCEIlpV".toList.contains c then start
      else { start with refused := some s!"Illegal option -{c}" }

/-- How the shell words the failure to open a file; `missing` is what it calls a file that is not there. -/
def openText (missing : String) (cause : IoError) : String :=
  if cause == .noEntry then missing else Utility.causeText cause

/-- Opens what a redirection leads to. -/
def redirectTo (m : Machine) (descriptor : Nat) (kind : RedirectKind) (target : Bytes) :
    Except String Machine :=
  let shown := Utility.shown target
  let opened (options : OpenOptions) (verb missing : String) : Except String Machine :=
    match m.sys.openFile target options 0o644 with
    | .ok (d, sys) => .ok ({ m with sys }.setChannel descriptor (.file d))
    | .error cause =>
      let reason := openText missing cause
      .error s!"cannot {verb} {shown}: {reason}"
  match kind with
  | .input => opened { read := true } "open" "No such file"
  | .output =>
    opened { write := true, create := true, truncate := true } "create" "Directory nonexistent"
  | .append =>
    opened { write := true, create := true, append := true } "create" "Directory nonexistent"
  | .duplicate =>
    if target == [Byte.minus] then .ok (m.closeChannel descriptor)
    else
      match (count? target).bind m.channel? with
      | some channel => .ok (m.setChannel descriptor channel)
      | none => .error s!"{shown}: Bad file descriptor"

/-- How the failure to run a program reads, and the status it leaves. -/
def notRun (cause : IoError) : String × Nat :=
  if cause == .noEntry || cause == .notDirectory then ("not found", 127)
  else (Utility.causeText cause, 126)

/-- A machine for a shell or a program that the running one starts. -/
def sub (m : Machine) : Machine :=
  { m with vars := [], traps := [], status := 0, errexit := false, ended := false }

/-- A special parameter, or a setting. -/
def parameter? (m : Machine) (name : String) : Option Bytes :=
  match name.toList with
  | ['#'] => some (Decimal.ofNat m.positional.length)
  | ['?'] => some (Decimal.ofNat m.status)
  | ['$'] => some (Decimal.ofNat m.pid)
  | ['!'] => some (Decimal.ofNat (m.pid + 1))
  | ['0'] => some m.arg0
  | ['*'] | ['@'] => some (List.intercalate [Byte.space] m.positional)
  | cs =>
    match count? (bytesOf cs) with
    | some n => m.positional[n - 1]?
    | none => m.setting? name

/-- The value of a parameter as it is written between braces: its name alone, its length, or with a
word to take in place of a missing or an empty value. -/
def braced (m : Machine) (text : String) : Bytes :=
  let cs := text.toList
  match cs with
  | '#' :: c :: rest =>
    Decimal.ofNat ((m.parameter? (String.ofList (c :: rest))).getD []).length
  | _ =>
    let named := cs.takeWhile isNameChar
    let name := if named.isEmpty then cs.take 1 else named
    let value := m.parameter? (String.ofList name)
    let word (rest : List Char) : Bytes := utf8 (String.ofList rest)
    match cs.drop name.length with
    | ':' :: '-' :: rest | ':' :: '=' :: rest =>
      match value with
      | some (b :: more) => b :: more
      | _ => word rest
    | '-' :: rest | '=' :: rest => value.getD (word rest)
    | ':' :: '+' :: rest =>
      match value with
      | some (_ :: _) => word rest
      | _ => []
    | '+' :: rest => if value.isSome then word rest else []
    | _ => value.getD []

/-- The signals a trap can be set for, without the one that cannot be caught. -/
def signalName (text : Bytes) : String :=
  let name := (Utility.shown text).toUpper
  let bare := if name.startsWith "SIG" then String.ofList (name.toList.drop 3) else name
  match bare with
  | "0" => "EXIT"
  | "1" => "HUP"
  | "2" => "INT"
  | "9" => "KILL"
  | "13" => "PIPE"
  | "15" => "TERM"
  | bare => bare

/-- Where a path leads from a directory by its text alone: `..` takes the name before it away. -/
def pathFrom (dir path : Path) : Path :=
  let names := (Path.join dir path).names.foldl
    (fun names name => if name == Path.above then names.tail else name :: names) []
  Path.root ++ List.intercalate [Byte.slash] names.reverse

/-- Lets the settings tell the working directory, if it can be read. -/
def noteDir (m : Machine) : Machine :=
  match m.sys.currentDir with
  | .ok dir => m.exportSetting "PWD" (some dir)
  | .error _ => m

/-- Goes to a directory, by the path that the settings tell. -/
def enterDir (m : Machine) (target : Path) : Machine :=
  let here := (m.setting? "PWD").getD []
  let path := if here.isEmpty && !Path.isAbsolute target then target else pathFrom here target
  match m.sys.changeDir path with
  | .ok sys =>
    let m := ({ m with sys }.exportSetting "OLDPWD" (some here)).withStatus 0
    if Path.isAbsolute path then m.exportSetting "PWD" (some path) else m.noteDir
  | .error _ => (m.protest s!"cd: can't cd to {Utility.shown target}").withStatus 2

/-- Assigns the words of a line to names; the last name gets all that is left. -/
def assignWords (m : Machine) (names : List String) (line : Bytes) : Machine :=
  match names with
  | [] => m
  | [name] => m.assign name (trim line)
  | name :: rest =>
    let line := line.dropWhile isBlank
    let word := line.takeWhile (!isBlank ·)
    (m.assign name word).assignWords rest (line.drop word.length)
where
  isBlank (b : UInt8) : Bool := b == 0x20 || b == 0x09
  trim (line : Bytes) : Bytes :=
    ((line.dropWhile isBlank).reverse.dropWhile isBlank).reverse

end Machine

/-- Builtins that need no other command: the machine after them, or nothing if the name is not theirs. -/
def builtin? (name : String) (argv : List Bytes) (m : Machine) : Option Machine :=
  let args := argv.tail
  let done := m.withStatus 0
  match name with
  | ":" | "true" => some done
  | "false" => some (m.withStatus 1)
  | "exit" => some
      { m with ended := true, status := (match args with
          | arg :: _ => (count? arg).getD 2
          | [] => m.status) % 256 }
  | "cd" => some (m.enterDir (args.headD ((m.setting? "HOME").getD [])))
  | "pwd" => some <|
      if args.contains (utf8 "-P") then
        match m.sys.currentDir with
        | .ok dir => output done (dir ++ [Byte.newline])
        | .error cause =>
          output ((m.protest s!"pwd: getcwd() failed: {Utility.causeText cause}").withStatus 0)
            [Byte.newline]
      else output done ((m.setting? "PWD").getD [] ++ [Byte.newline])
  | "echo" => some (output done (echo args))
  | "printf" => some (output done (printf args))
  | "test" => some (Utility.test args m)
  | "[" => some (Utility.test args.dropLast m)
  | "export" => some <| args.foldl
      (fun m arg =>
        let name := Utility.shown (arg.takeWhile (· != 0x3d))
        m.exportSetting name
          (if arg.contains 0x3d then some ((arg.dropWhile (· != 0x3d)).drop 1) else none)) done
  | "unset" => some (args.foldl (fun m arg => m.unset (Utility.shown arg)) done)
  | "set" => some <|
      match args with
      | [0x2d, 0x2d] :: rest => { done with positional := rest }
      | (0x2d :: flags) :: _ => { done with errexit := m.errexit || flags.contains 0x65 }
      | (0x2b :: flags) :: _ => { done with errexit := m.errexit && !flags.contains 0x65 }
      | [] => done
      | rest => { done with positional := rest }
  | "shift" => some <|
      let n := (args.head?.bind count?).getD 1
      if m.positional.length < n then
        { m.protest "shift: can't shift that many" with ended := true, status := 2 }
      else { done with positional := m.positional.drop n }
  | "trap" => some <|
      match args with
      | action :: signals =>
        signals.foldl
          (fun m signal => { m with traps := m.traps.insert (Machine.signalName signal) action })
          done
      | [] => done
  | "ulimit" => some <|
      match args with
      | [_] | [] => output done (Decimal.ofNat System.defaultLimit ++ [Byte.newline])
      | _ => done
  | "umask" => some (if args.isEmpty then output done (utf8 "0022\n") else done)
  | "read" => some <|
      let names := (args.filter fun arg => arg.head? != some Byte.minus).map Utility.shown
      let (line, complete, m) := m.readLine
      (m.assignWords names line).withStatus (if complete then 0 else 1)
  | "wait" => some { done with clock := max m.clock m.background }
  | _ => none
where
  output (m : Machine) (bytes : Bytes) : Machine :=
    if bytes.isEmpty then m
    else
      match m.write 1 bytes with
      | .ok m => m
      | .error _ => (m.protest s!"{name}: {name}: I/O error").withStatus 1

/-- Whether the next piece of a word is a slash. -/
def isSlash (word : Word) : Bool :=
  match word with
  | .text ['/'] false :: _ => true
  | _ => false

/-- Tells where commands are. -/
def which (m : Machine) (names : List Bytes) : Machine :=
  names.foldl
    (fun m name =>
      if (builtin? (Utility.shown name) [name] m).isSome then Utility.line (utf8 "command") m name
      else
        let entries := (((m.setting? "PATH").getD []).splitOn Byte.colon).map (Path.join · name)
        match entries.find? m.sys.isExecutableFile with
        | some path => Utility.line (utf8 "command") m path
        | none => m.withStatus 127)
    (m.withStatus 0)

mutual

/-- Expands a piece of a word. -/
def expandPart (fuel : Nat) (m : Machine) (part : Part) : List Piece × Machine :=
  match fuel with
  | 0 => ([], m)
  | fuel + 1 =>
    let text (quoted : Bool) (bytes : Bytes) : List Piece :=
      (if quoted then [Piece.mark] else []) ++ (charsOf bytes).map (.char · quoted)
    match part with
    | .text cs quoted => (text quoted (bytesOf cs), m)
    | .parameter "@" true =>
      if m.positional.isEmpty then ([.nothing], m)
      else (List.intercalate [.cut] (m.positional.map (text true)), m)
    | .parameter name quoted =>
      if (name == "@" || name == "*") && !quoted then
        (List.intercalate [.cut] (m.positional.map (text false)), m)
      else (text quoted (m.braced name), m)
    | .output body quoted =>
      let (id, m) := m.makePipe
      let inner := run fuel body ({ m with traps := [] }.setChannel 1 (.pipe id))
      let m := (m.rejoin inner).fillPipe id
      let bytes := ((m.pipes.find? (·.id == id)).map (·.rest)).getD []
      let kept := (bytes.reverse.dropWhile (· == Byte.newline)).reverse.filter (· != Byte.nul)
      (text quoted kept, m)

/-- Expands a word, behind the pieces in `done`, of which the newest comes first. -/
def expandWord (fuel : Nat) (m : Machine) (done : List Piece) (word : Word) :
    List Piece × Machine :=
  match fuel with
  | 0 => (done.reverse, m)
  | fuel + 1 =>
    match word with
    | [] => (done.reverse, m)
    | .text ['~'] false :: rest =>
      if done.isEmpty && (rest.isEmpty || isSlash rest) then
        let (pieces, m) := expandPart fuel m (.parameter "HOME" true)
        expandWord fuel m (pieces.reverse ++ done) rest
      else expandWord fuel m (.char '~' false :: done) rest
    | part :: rest =>
      let (pieces, m) := expandPart fuel m part
      expandWord fuel m (pieces.reverse ++ done) rest

/-- Expands words to arguments. -/
def expandWords (fuel : Nat) (m : Machine) (done : List Bytes) (words : List Word) :
    List Bytes × Machine :=
  match fuel with
  | 0 => (done, m)
  | fuel + 1 =>
    match words with
    | [] => (done, m)
    | word :: rest =>
      let (pieces, m) := expandWord fuel m [] word
      expandWords fuel m (done ++ (Field.split {} pieces).flatMap (Field.texts m.sys)) rest

/-- Carries out redirections; tells whether all could be. -/
def redirect (fuel : Nat) (m : Machine) (redirects : List Redirect) : Bool × Machine :=
  match fuel with
  | 0 => (false, m)
  | fuel + 1 =>
    match redirects with
    | [] => (true, m)
    | .mk descriptor kind target :: rest =>
      let (pieces, m) := expandWord fuel m [] target
      match m.redirectTo descriptor kind (bytesOf (Field.joined pieces)) with
      | .ok m => redirect fuel m rest
      | .error text => (false, (m.protest text).withStatus 2)

/-- Carries out assignments. -/
def assignAll (fuel : Nat) (m : Machine) (assignments : List (String × Word)) : Machine :=
  match fuel with
  | 0 => m
  | fuel + 1 =>
    match assignments with
    | [] => m
    | (name, word) :: rest =>
      let (pieces, m) := expandWord fuel m [] word
      assignAll fuel (m.assign name (bytesOf (Field.joined pieces))) rest

/-- Runs a command given by its arguments. -/
def call (fuel : Nat) (m : Machine) (argv : List Bytes) : Machine :=
  match fuel with
  | 0 => m
  | fuel + 1 =>
    let name := Utility.shown (argv.headD [])
    match builtin? name argv m with
    | some m => m
    | none =>
      match name with
      | "exec" =>
        if argv.tail.isEmpty then m.withStatus 0
        else { runNamed fuel m argv.tail with ended := true }
      | "command" =>
        match argv.tail with
        | [0x2d, 0x76] :: names => which m names
        | rest => if rest.isEmpty then m.withStatus 0 else call fuel m rest
      | "eval" => runText fuel m (List.intercalate [Byte.space] argv.tail)
      | "kill" => kill fuel m argv.tail
      | _ => runNamed fuel m argv

/-- Sends a signal. Only the shell itself is there to get it. -/
def kill (fuel : Nat) (m : Machine) (args : List Bytes) : Machine :=
  match fuel with
  | 0 => m
  | fuel + 1 =>
    let (signal, targets) := match args with
      | [0x2d, 0x73] :: signal :: rest => (Machine.signalName signal, rest)
      | (0x2d :: signal) :: rest => (Machine.signalName signal, rest)
      | rest => ("TERM", rest)
    if targets.contains (Decimal.ofNat m.pid) then
      match if signal == "KILL" then none else m.traps.find? signal with
      | some action => runText fuel m action
      | none =>
        if signal == "CHLD" || signal == "CONT" || signal == "0" || signal == "EXIT" then m.withStatus 0
        else { m with ended := true, status := 137, traps := [] }
    else m.withStatus 0

/-- Runs the program of a name, as the shell looks it up. -/
def runNamed (fuel : Nat) (m : Machine) (argv : List Bytes) : Machine :=
  match fuel with
  | 0 => m
  | fuel + 1 =>
    let name := argv.headD []
    match Program.ofName m.sys name argv with
    | .ok program => m.rejoin (runProgram fuel m.sub program)
    | .error cause =>
      if cause == .notExecutable then
        m.rejoin (runShell fuel m.sub (utf8 "sh" :: name :: argv.tail))
      else
        let (text, status) := if name.isEmpty then ("Permission denied", 127) else Machine.notRun cause
        (m.protest s!"{Utility.shown name}: {text}").withStatus status

/-- Runs a program on a machine of its own. -/
def runProgram (fuel : Nat) (m : Machine) (program : Program) : Machine :=
  match fuel with
  | 0 => m
  | fuel + 1 =>
    match program.utility with
    | "sh" | "dash" | "bash" => runShell fuel m program.argv
    | "env" =>
      let settings := program.argv.tail.takeWhile (·.contains 0x3d)
      let m := settings.foldl
        (fun m arg => m.exportSetting (Utility.shown (arg.takeWhile (· != 0x3d)))
          (some ((arg.dropWhile (· != 0x3d)).drop 1))) m
      match program.argv.tail.drop settings.length with
      | [] => Utility.printenv (utf8 "env") [] m
      | argv =>
        match Program.ofName m.sys (argv.headD []) argv with
        | .ok inner => runProgram fuel m inner
        | .error cause =>
          (m.complain s!"env: '{Utility.shown (argv.headD [])}': {Utility.causeText cause}").withStatus 127
    | name => Utility.run name program.argv m

/-- Runs a shell with its arguments, on a machine of its own. -/
def runShell (fuel : Nat) (m : Machine) (argv : List Bytes) : Machine :=
  match fuel with
  | 0 => m
  | fuel + 1 =>
    let m := { m with arg0 := argv.headD [], positional := [], line := 0 }
    let m := match m.sys.currentDir with
      | .ok _ => m.noteDir
      | .error cause =>
        { { m with arg0 := utf8 "sh" }.protest s!"getcwd() failed: {Utility.causeText cause}" with
          arg0 := m.arg0 }
    let (start, args) := Machine.startOf {} argv.tail
    let m := { m with errexit := start.errexit }
    match start.refused, start.command, args with
    | some text, _, _ => (m.protest text).withStatus 2
    | none, true, [] => (m.protest "-c requires an argument").withStatus 2
    | none, true, script :: rest =>
      finish fuel (runText fuel { m with arg0 := rest.headD m.arg0, positional := rest.tail } script)
    | none, false, path :: rest =>
      if start.input then fromInput fuel { m with positional := path :: rest }
      else
        match Utility.contentOf { m with channels := [] } path none with
        | .ok (script, _) =>
          finish fuel (runText fuel { m with arg0 := path, positional := rest } script)
        | .error cause =>
          let text := Machine.openText "No such file" cause
          (m.protest s!"cannot open {Utility.shown path}: {text}").withStatus 2
    | none, false, [] => fromInput fuel m

/-- Runs the script on the input. -/
def fromInput (fuel : Nat) (m : Machine) : Machine :=
  match fuel with
  | 0 => m
  | fuel + 1 =>
    match m.read 0 none with
    | .ok (script, m) => finish fuel (runText fuel m script)
    | .error _ => m

/-- Runs what is to be done when a shell ends. -/
def finish (fuel : Nat) (m : Machine) : Machine :=
  match fuel with
  | 0 => m
  | fuel + 1 =>
    match m.traps.find? "EXIT" with
    | some action =>
      let after := runText fuel { m with ended := false, traps := [] } action
      { after with status := m.status }
    | none => m

/-- Runs the text of a script. -/
def runText (fuel : Nat) (m : Machine) (script : Bytes) : Machine :=
  match fuel with
  | 0 => m
  | fuel + 1 =>
    match parse? (charsOf script) with
    | some command => run fuel command m
    | none =>
      { { m with line := 1 }.protest "Syntax error: end of file unexpected" with
        ended := true, status := 2 }

/-- Runs a simple command. -/
def runSimple (fuel : Nat) (m : Machine) (assignments : List (String × Word)) (words : List Word)
    (redirects : List Redirect) : Machine :=
  match fuel with
  | 0 => m
  | fuel + 1 =>
    let (argv, m) := expandWords fuel { m with status := m.status } [] words
    let channels := m.channels
    let (ready, m) := redirect fuel m redirects
    if !ready then { m with channels }
    else if argv.isEmpty then
      { assignAll fuel m assignments with channels, status := if words.isEmpty then 0 else m.status }
    else if assignments.isEmpty then
      let after := call fuel m argv
      if argv.head? == some (utf8 "exec") then after else { after with channels }
    else
      let env := m.sys.env
      let vars := m.vars
      let given := assignments.foldl (fun m entry => m.exportSetting entry.1 none)
        (assignAll fuel m assignments)
      let after := call fuel given argv
      { after with channels, vars, sys := { after.sys with env } }

/-- Runs a command. -/
def run (fuel : Nat) (command : Command) (m : Machine) : Machine :=
  match fuel with
  | 0 => m
  | fuel + 1 =>
    if m.ended then m
    else
      match command with
      | .skip => m
      | .simple line assignments words redirects =>
        let after := runSimple fuel { m with line } assignments words redirects
        if after.errexit && after.status != 0 then { after with ended := true } else after
      | .sequence first second => run fuel second (run fuel first m)
      | .both first second =>
        let after := { run fuel first { m with errexit := false } with errexit := m.errexit }
        if after.status == 0 then run fuel second after else after
      | .either first second =>
        let after := { run fuel first { m with errexit := false } with errexit := m.errexit }
        if after.status == 0 then after else run fuel second after
      | .negate body =>
        let after := { run fuel body { m with errexit := false } with errexit := m.errexit }
        after.withStatus (if after.status == 0 then 1 else 0)
      | .background body =>
        let inner := run fuel body ({ m with traps := [] }.setChannel 0 .null)
        let after := m.rejoin inner
        { after with
          clock := m.clock, status := 0, background := max m.background (max inner.clock inner.background) }
      | .pipe left right =>
        let (id, m) := m.makePipe
        let first := run fuel left ({ m with traps := [] }.setChannel 1 (.pipe id))
        let filled := (m.rejoin first).fillPipe id
        let second := run fuel right
          ({ filled with clock := m.clock, traps := [] }.setChannel 0 (.pipe id))
        let after := m.rejoin second
        { after with clock := max first.clock second.clock }
      | .subshell body redirects =>
        let (ready, inner) := redirect fuel m redirects
        if ready then m.rejoin (finish fuel (run fuel body { inner with traps := [] }))
        else { inner with channels := m.channels }
      | .group body redirects =>
        let (ready, inner) := redirect fuel m redirects
        if ready then { run fuel body inner with channels := m.channels }
        else { inner with channels := m.channels }
      | .branch condition yes no =>
        let after := { run fuel condition { m with errexit := false } with errexit := m.errexit }
        if after.status == 0 then run fuel yes after else run fuel no (after.withStatus 0)
      | .loop untilTrue condition body =>
        let after := { run fuel condition { m with errexit := false } with errexit := m.errexit }
        if after.ended then after
        else if (after.status == 0) != untilTrue then run fuel command (run fuel body after)
        else after.withStatus 0
      | .forEach name words body =>
        let (values, m) := expandWords fuel m [] words
        runEach fuel name body values (m.withStatus 0)

/-- Runs a command once for every value of a setting. -/
def runEach (fuel : Nat) (name : String) (body : Command) (values : List Bytes) (m : Machine) :
    Machine :=
  match fuel with
  | 0 => m
  | fuel + 1 =>
    match values with
    | [] => m
    | value :: rest =>
      if m.ended then m else runEach fuel name body rest (run fuel body (m.assign name value))

end

end ScriptExec.Shell
