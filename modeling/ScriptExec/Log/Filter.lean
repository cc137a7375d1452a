-- SUMMARY: Filters of log records: directives, how they are written, and which record passes.
import ScriptExec.ExecError
import ScriptExec.Log.Record
import ScriptExec.Text.Alphanumeric
import ScriptExec.Text.Quoted

/-!
# Log filters

A filter is a list of directives. Each names a target, or all targets, and how verbose records may be
there; it can ask for fields that a record must have. Of the directives that apply to a record the
most specific one decides: the one with the longest target, then the one with the most fields. A
record to which none applies is dropped.

Written, directives are separated by commas: `level`, `target`, `target=level`, and
`target[span{field}]=level`. Directives about a span are for records within spans; the program opens
none, so they let nothing through.
-/

namespace ScriptExec.Log

/-- How verbose records may be; `none` lets nothing through. -/
abbrev Threshold := Option Level

namespace Threshold

/-- Whether records of a level pass. -/
def admits (threshold : Threshold) (level : Level) : Bool :=
  match threshold with
  | none => false
  | some most => level.verbosity ≤ most.verbosity

/-- The threshold of a number: nothing passes at 0, everything at 5. -/
def ofNumber? : Nat → Option Threshold
  | 0 => some none
  | 1 => some (some .error)
  | 2 => some (some .warn)
  | 3 => some (some .info)
  | 4 => some (some .debug)
  | 5 => some (some .trace)
  | _ => none

/-- A number written with digits, a plus sign in front allowed. -/
def number? (text : List Char) : Option Nat :=
  let digits := match text with
    | '+' :: rest => rest
    | _ => text
  if !digits.isEmpty && digits.all Char.isDigit then
    some (digits.foldl (fun n c => n * 10 + (c.toNat - 48)) 0)
  else none

/-- The threshold written as a number or as a name in letters of either case. -/
def ofText? (text : String) : Option Threshold :=
  match (number? text.toList).bind ofNumber? with
  | some threshold => some threshold
  | none =>
    let lower := text.toLower
    if lower == "off" then some none else (Level.ofName? lower).map some

end Threshold

/-! ## Directives -/

structure Directive where
  threshold : Threshold := some .trace
  /-- The start of the targets that are meant; `none` for all. -/
  target : Option String := none
  span : Option String := none
  /-- Fields a record must have, and whether a value is asked for too. -/
  fields : List (String × Bool) := []
  deriving DecidableEq, Repr

/-- Where the reading of a directive stands; the numbers say at which byte a part starts. -/
inductive Directive.Stage
  | start
  | levelOrTarget (first : Nat)
  | span (first : Nat)
  | field (first : Nat)
  | fieldsEnd
  | targetEnd
  | level (first : Nat)
  deriving DecidableEq, Repr

namespace Directive

/-- The characters of a text with the number of bytes before each. -/
def withOffsets (offset : Nat) : List Char → List (Nat × Char)
  | [] => []
  | c :: rest => (offset, c) :: withOffsets (offset + c.utf8Size) rest

/-- The text between two byte positions. -/
def slice (piece : Bytes) (first last : Nat) : String :=
  Utf8.decodeLossy ((piece.take last).drop first)

/-- The text from a byte position on. -/
def sliceFrom (piece : Bytes) (first : Nat) : String :=
  Utf8.decodeLossy (piece.drop first)

/-- A directive starts with a letter, a digit, `-`, `:` or `_`, or with the bracket of a span. -/
def canStart (c : Char) : Bool :=
  c == '-' || c == ':' || c == '_' || Text.isAlphanumeric c

/-- A field, and whether it is followed by a value; it must not be empty. -/
def fieldOf? (text : String) : Option (String × Bool) :=
  if text.isEmpty then none
  else
    let name := text.toList.takeWhile (· != '=')
    some (String.ofList name, text.toList.contains '=')

/-- The level after an equals sign; without text it is the most verbose one. -/
def levelOf? (text : String) : Option Threshold :=
  if text.isEmpty then some (some .trace) else Threshold.ofText? text

/-- Takes one character of a directive; positions are those of the piece without the blanks around
it, while the texts are cut from the piece as it stands. -/
def step (piece : Bytes) (state : Stage × Directive) (at_ : Nat × Char) :
    Option (Stage × Directive) :=
  let (stage, d) := state
  let (i, c) := at_
  match stage, c with
  | .start, '[' => some (.span (i + 1), d)
  | .start, c => if canStart c then some (.levelOrTarget i, d) else none
  | .levelOrTarget first, '=' => some (.level (i + 1), { d with target := slice piece first i })
  | .levelOrTarget first, '[' => some (.span (i + 1), { d with target := slice piece first i })
  | .span first, ']' => some (.targetEnd, { d with span := slice piece first i })
  | .span first, '\x7b' =>
    let name := slice piece first i
    some (.field (i + 1), { d with span := if name.isEmpty then none else some name })
  | .field first, '\x7d' =>
    (fieldOf? (slice piece first i)).map fun f => (.fieldsEnd, { d with fields := d.fields ++ [f] })
  | .fieldsEnd, ']' => some (.targetEnd, d)
  | .fieldsEnd, _ => none
  | .targetEnd, '=' => some (.level (i + 1), d)
  | .targetEnd, _ => none
  | stage, _ => some (stage, d)

/-- Ends the reading of a directive. A text by itself is a level if it names one, else a target. -/
def finish? (piece : Bytes) : Stage × Directive → Option Directive
  | (.levelOrTarget first, d) =>
    let text := sliceFrom piece first
    match Threshold.ofText? text with
    | some threshold => some { d with threshold, target := none }
    | none => some { d with threshold := some .trace, target := some text }
  | (.level first, d) =>
    (levelOf? (sliceFrom piece first)).map fun threshold => { d with threshold }
  | (.targetEnd, d) => some d
  | _ => none

/-- Reads one directive. -/
def parse? (text : String) : Option Directive := do
  let piece := utf8 text
  let cs := withOffsets 0 (Text.trim text).toList
  finish? piece (← cs.foldlM (step piece) (.start, {}))

/-- Whether the directive is about records outside spans: it names no span and asks for no value. -/
def isStatic (d : Directive) : Bool :=
  d.span.isNone && d.fields.all fun f => !f.2

/-- Whether the directive applies to a record. -/
def appliesTo (d : Directive) (record : Record) : Bool :=
  (match d.target with
    | none => true
    | some target => record.target.startsWith target) &&
  d.fields.all fun f => record.fields.contains f.1 || f.1 == "message"

/-- The length of the target; all targets come below the empty one. -/
def targetRank (d : Directive) : Nat :=
  match d.target with
  | none => 0
  | some target => target.utf8ByteSize + 1

/-- Whether `d` decides before `e` where both apply to one record. -/
def moreSpecific (d e : Directive) : Bool :=
  e.targetRank < d.targetRank ||
    (d.targetRank == e.targetRank &&
      (e.fields.length < d.fields.length ||
        (d.fields.length == e.fields.length && e.fields.map (·.1) < d.fields.map (·.1))))

/-- Whether two directives speak of the same records. -/
def sameScope (d e : Directive) : Bool :=
  d.target == e.target && d.fields == e.fields

end Directive

/-! ## Filters -/

/-- The directives about records outside spans. -/
abbrev Filter := List Directive

namespace Filter

/-- Lets through what a level lets through, whatever the target. -/
def ofLevel (level : Level) : Filter :=
  [{ threshold := some level }]

/-- The directives of a text. Of two about the same records the later one stays; without any
directive only errors pass. -/
def ofDirectives (directives : List Directive) : Filter :=
  if directives.isEmpty then ofLevel .error
  else (directives.filter Directive.isStatic).foldl
    (fun filter d => filter.filter (fun e => !d.sameScope e) ++ [d]) []

/-- Reads directives separated by commas; empty ones do not count. -/
def parse? (text : String) : Option Filter := do
  let pieces := (text.toList.splitOn ',').filter fun piece => !piece.isEmpty
  return ofDirectives (← pieces.mapM fun piece => Directive.parse? (String.ofList piece))

/-- The directive that decides about a record. -/
def deciding? (filter : Filter) (record : Record) : Option Directive :=
  (filter.filter (·.appliesTo record)).foldl
    (fun best d =>
      match best with
      | none => some d
      | some b => if d.moreSpecific b then some d else best)
    none

/-- Whether a record passes. -/
def passes (filter : Filter) (record : Record) : Bool :=
  match filter.deciding? record with
  | some d => d.threshold.admits record.level
  | none => false

/-- The environment variable that may hold a filter. -/
def environmentVariable : String := "NASL_EXEC_LOG"

/-- Selects the filter: the level of the command line, then the value of the environment unless it is
blank, then the level of the configuration, then `info`. The value is a level name or a list of
directives. -/
def select (given : Option Level) (environment configured : Option String) :
    Except ProgramError Filter :=
  match given with
  | some level => .ok (ofLevel level)
  | none =>
    match (environment.map Text.trim).filter fun text => !text.isEmpty with
    | some text =>
      match Level.ofText? text with
      | some level => .ok (ofLevel level)
      | none =>
        match parse? text with
        | some filter => .ok filter
        | none => .error (.other s!"invalid {environmentVariable} value {Text.quoted text}")
    | none => .ok (ofLevel ((configured.bind Level.ofText?).getD .info))

end Filter

end ScriptExec.Log
