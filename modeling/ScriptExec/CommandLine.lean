-- SUMMARY: What may be asked on the command line, and how its arguments are read.
import ScriptExec.Log.Level
import ScriptExec.Path
import ScriptExec.Text.Utf8

/-!
# Command line

The arguments are read at two levels: options of the whole program and the name of a command, then the
options and operands of that command. Options of the whole program may stand at both levels; the
command's own win.

An option takes its value from after its `=`, or else from the next argument that does not read as an
option. `--` ends the options. Of the operands of `pread` the first is the command; what follows the
next one is taken as it stands, so that any argument vector can be given.

A value is checked when the next option or operand comes, or at the end, so an argument that cannot be
placed is refused before a bad value in front of it is.
-/

namespace ScriptExec.CommandLine

/-- What the program is asked to do. -/
inductive Command
  /-- Run a command and write what it writes. -/
  | pread (cd : Bool) (user : Option String) (cmd : String) (argv : List String)
  /-- Tell whether a command can be found. -/
  | findInPath (name : String)
  deriving DecidableEq, Repr

/-- A command line that was understood. -/
structure Invocation where
  /-- Where to read the configuration. -/
  config : Option Path
  logLevel : Option Log.Level
  command : Command
  deriving DecidableEq, Repr

/-- Why a command line is not carried out. -/
inductive Refusal
  | displayHelp
  | displayVersion
  | displayHelpOnMissingArgumentOrSubcommand
  | missingSubcommand
  | missingRequiredArgument
  | invalidSubcommand
  | unknownArgument
  | argumentConflict
  | tooManyValues
  | invalidValue
  | invalidUtf8
  deriving DecidableEq, Repr

/-- The exit code of the program when it refuses its command line. -/
def Refusal.exitCode : Refusal → Nat
  | .displayHelp | .displayVersion => 0
  | _ => 2

/-! ## Items -/

/-- Everything that can be given: options, flags and operands. -/
inductive Item
  | config
  | logLevel
  | cd
  | user
  | help
  | version
  | cmd
  | argv
  | name
  deriving DecidableEq, Repr

/-- Options with a value; the other options are flags. -/
def Item.takesValue : Item → Bool
  | .cd | .help | .version => false
  | _ => true

/-- What a level of the command line accepts. -/
structure Level where
  long : List (String × Item)
  short : List (UInt8 × Item)
  operands : List Item

namespace Level

def common : List (String × Item) :=
  [("config", .config), ("log-level", .logLevel), ("help", .help)]

/-- The level before the name of the command. -/
def program : Level :=
  { long := ("version", .version) :: common, short := [(0x68, .help), (0x56, .version)], operands := [] }

def pread : Level :=
  { long := ("cd", .cd) :: ("user", .user) :: common, short := [(0x68, .help)], operands := [.cmd, .argv] }

def findInPath : Level :=
  { long := common, short := [(0x68, .help)], operands := [.name] }

/-- The item with a long name. -/
def item? (level : Level) (name : Bytes) : Option Item :=
  (level.long.find? fun entry => utf8 entry.1 == name).map (·.2)

end Level

/-! ## Values -/

/-- The values found so far at one level. -/
structure Values where
  config : Option Path := none
  logLevel : Option Log.Level := none
  cd : Bool := false
  user : Option String := none
  cmd : Option String := none
  argv : List String := []
  name : Option String := none
  deriving DecidableEq, Repr

/-- A value that must be text. -/
def textValue (raw : Bytes) : Except Refusal String :=
  match Utf8.decode? raw with
  | some text => .ok text
  | none => .error .invalidUtf8

/-- The name of a level, in lower case only. -/
def levelValue (raw : Bytes) : Except Refusal Log.Level :=
  match (Utf8.decode? raw).bind Log.Level.ofName? with
  | some level => .ok level
  | none => .error .invalidValue

/-- The only value of an item that may be given once; it is checked after the item is known to be
new. -/
def single {α : Type} (present : Bool) (check : Bytes → Except Refusal α) :
    List Bytes → Except Refusal α
  | [raw] => if present then .error .argumentConflict else check raw
  | _ => .error .invalidValue

namespace Values

/-- Takes the raw values of an item. -/
def store (values : Values) (item : Item) (raw : List Bytes) : Except Refusal Values :=
  match item with
  | .config => do
    let path ← single values.config.isSome
      (fun raw => if raw.isEmpty then .error .invalidValue else .ok raw) raw
    return { values with config := some path }
  | .logLevel => do
    return { values with logLevel := some (← single values.logLevel.isSome levelValue raw) }
  | .cd => if values.cd then .error .argumentConflict else .ok { values with cd := true }
  | .user => do return { values with user := some (← single values.user.isSome textValue raw) }
  | .cmd => do return { values with cmd := some (← single values.cmd.isSome textValue raw) }
  | .name => do return { values with name := some (← single values.name.isSome textValue raw) }
  | .argv => do return { values with argv := values.argv ++ (← raw.mapM textValue) }
  | .help => .error .displayHelp
  | .version => .error .displayVersion

/-- Whether nothing at all has been given. -/
def isEmpty (values : Values) : Bool :=
  values == {}

end Values

/-! ## Reading one argument -/

/-- How an argument reads by itself. -/
inductive Word
  /-- The argument `--`. -/
  | escape
  | long (name : Bytes) (value : Option Bytes)
  | short (flags : Bytes)
  | plain
  deriving DecidableEq, Repr

/-- A leading `--` makes a long option, which may have a value after `=`; a leading `-` with something
after it makes a cluster of short ones. -/
def Word.of : Bytes → Word
  | 0x2d :: 0x2d :: [] => .escape
  | 0x2d :: 0x2d :: rest =>
    let name := rest.takeWhile (· != 0x3d)
    match rest.dropWhile (· != 0x3d) with
    | [] => .long name none
    | _ :: value => .long name (some value)
  | 0x2d :: b :: rest => .short (b :: rest)
  | _ => .plain

/-- The reading of one level under way. -/
structure State where
  values : Values := {}
  /-- The item whose values are not checked yet, and these values. -/
  pending : Option (Item × List Bytes) := none
  /-- Whether the next argument can be the value of the pending option. -/
  awaiting : Bool := false
  /-- Whether every further argument is an operand. -/
  verbatim : Bool := false
  /-- The operands still to come. -/
  operands : List Item
  deriving Repr

namespace State

def start (level : Level) : State :=
  { operands := level.operands }

/-- Checks the pending values. -/
def settle (st : State) : Except Refusal State :=
  match st.pending with
  | none => .ok st
  | some (item, raw) => do
    return { st with values := ← st.values.store item raw, pending := none }

/-- Takes a flag, or an option whose value is known. -/
def give (st : State) (item : Item) (raw : List Bytes) : Except Refusal State := do
  let st ← st.settle
  return { st with values := ← st.values.store item raw, awaiting := false }

/-- Takes an option whose value is still to come. -/
def await (st : State) (item : Item) : Except Refusal State := do
  let st ← st.settle
  return { st with pending := some (item, []), awaiting := true }

/-- Whether the next operand may start with a hyphen. -/
def takesHyphens (st : State) : Bool :=
  st.operands.head? == some .argv

/-- Takes an operand. The argument vector takes all that follows. -/
def operand (st : State) (arg : Bytes) : Except Refusal State :=
  match st.operands, st.pending with
  | [], _ => .error .unknownArgument
  | .argv :: rest, some (.argv, raw) =>
    .ok { st with pending := some (.argv, raw ++ [arg]), operands := .argv :: rest }
  | .argv :: rest, _ => do
    let st ← st.settle
    return { st with pending := some (.argv, [arg]), verbatim := true, awaiting := false
                     operands := .argv :: rest }
  | item :: rest, _ => do
    let st ← st.settle
    return { st with pending := some (item, [arg]), awaiting := false, operands := rest }

/-- Takes an argument that is neither an option nor `--`: the value an option waits for, or an
operand. -/
def plain (st : State) (arg : Bytes) : Except Refusal State :=
  match st.awaiting, st.pending with
  | true, some (item, raw) => .ok { st with pending := some (item, raw ++ [arg]), awaiting := false }
  | _, _ => st.operand arg

/-- Takes a long option. A name that is not text is never an operand. -/
def long (st : State) (level : Level) (arg name : Bytes) (value : Option Bytes) :
    Except Refusal State :=
  match level.item? name, value with
  | some item, some v => if item.takesValue then st.give item [v] else .error .tooManyValues
  | some item, none => if item.takesValue then st.await item else st.give item []
  | none, _ =>
    if st.takesHyphens && (Utf8.decode? name).isSome then st.plain arg else .error .unknownArgument

/-- Takes a cluster of short options. Each of them ends the reading, so the first decides. -/
def short (st : State) (level : Level) (arg flags : Bytes) : Except Refusal State :=
  if st.takesHyphens && flags.any (fun flag => (level.short.lookup flag).isNone) then st.plain arg
  else
    match flags.head?.bind (level.short.lookup ·) with
    | some item => st.give item []
    | none => .error .unknownArgument

/-- Takes one argument. -/
def take (st : State) (level : Level) (arg : Bytes) : Except Refusal State :=
  if st.verbatim then st.operand arg
  else
    match Word.of arg with
    | .escape => .ok { st with verbatim := true }
    | .long name value => st.long level arg name value
    | .short flags => st.short level arg flags
    | .plain => st.plain arg

/-- Takes all arguments of a level. -/
def takeAll (st : State) (level : Level) (args : List Bytes) : Except Refusal State :=
  args.foldlM (fun st arg => st.take level arg) st

end State

/-! ## Reading the command line -/

/-- The names of the commands. -/
inductive CommandName
  | pread
  | findInPath
  | help
  deriving DecidableEq, Repr

def CommandName.of? (arg : Bytes) : Option CommandName :=
  if arg == utf8 "pread" then some .pread
  else if arg == utf8 "find-in-path" then some .findInPath
  else if arg == utf8 "help" then some .help
  else none

/-- Reads a whole level: all arguments, and the check of what is pending at the end. -/
def readLevel (level : Level) (args : List Bytes) : Except Refusal Values := do
  let st ← (State.start level).takeAll level args
  return (← st.settle).values

/-- Something that must have been given. -/
def required {α : Type} : Option α → Except Refusal α
  | some x => .ok x
  | none => .error .missingRequiredArgument

/-- The options of the whole program, and a command. -/
structure Reading where
  config : Option Path
  logLevel : Option Log.Level
  command : Command

/-- Help on a command: the names must lead to one. -/
def readHelp : List Bytes → Refusal
  | [] => .displayHelp
  | [arg] => if (CommandName.of? arg).isSome then .displayHelp else .invalidSubcommand
  | _ => .invalidSubcommand

/-- Reads the arguments after the name of a command. -/
def readCommand (name : CommandName) (args : List Bytes) : Except Refusal Reading :=
  match name with
  | .pread => do
    let values ← readLevel .pread args
    let cmd ← required values.cmd
    return ⟨values.config, values.logLevel, .pread values.cd values.user cmd values.argv⟩
  | .findInPath => do
    let values ← readLevel .findInPath args
    return ⟨values.config, values.logLevel, .findInPath (← required values.name)⟩
  | .help => .error (readHelp args)

/-- An operand where a command is expected. Behind `--` the name of a command is out of place. -/
def misplaced (st : State) (arg : Bytes) : Refusal :=
  if st.verbatim && (CommandName.of? arg).isSome then .unknownArgument else .invalidSubcommand

/-- Whether an argument is taken as an operand: it is neither an option nor the value of one. -/
def isOperand (st : State) (arg : Bytes) : Bool :=
  st.verbatim || (Word.of arg == .plain && !st.awaiting)

/-- Reads the level of the whole program up to the name of a command, then the command. -/
def readProgram (st : State) : List Bytes → Except Refusal Invocation
  | [] => do
    let st ← st.settle
    .error (if st.values.isEmpty then .displayHelpOnMissingArgumentOrSubcommand
      else .missingSubcommand)
  | arg :: rest =>
    match if st.verbatim || st.awaiting then none else CommandName.of? arg with
    | some name => do
      let found ← readCommand name rest
      let st ← st.settle
      return { config := found.config <|> st.values.config
               logLevel := found.logLevel <|> st.values.logLevel, command := found.command }
    | none =>
      if isOperand st arg then .error (misplaced st arg)
      else do readProgram (← st.take .program arg) rest

/-- Reads the arguments of the program, its own name left out. -/
def parse (args : List Bytes) : Except Refusal Invocation :=
  readProgram (.start .program) args

end ScriptExec.CommandLine
