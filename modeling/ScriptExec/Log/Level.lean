-- SUMMARY: Levels of log records and their names.
import ScriptExec.Text.Blank

/-!
# Log levels

Records are written at one of five levels. A level is at most as verbose as another if every record
it lets through passes the other too.
-/

namespace ScriptExec.Log

inductive Level
  | error
  | warn
  | info
  | debug
  | trace
  deriving DecidableEq, Repr, Inhabited

namespace Level

/-- All levels, the least verbose first. -/
def all : List Level := [.error, .warn, .info, .debug, .trace]

/-- How verbose a level is. -/
def verbosity : Level → Nat
  | .error => 1
  | .warn => 2
  | .info => 3
  | .debug => 4
  | .trace => 5

/-- The name of a level in lower case. -/
def name : Level → String
  | .error => "error"
  | .warn => "warn"
  | .info => "info"
  | .debug => "debug"
  | .trace => "trace"

/-- The level of a name in lower case. -/
def ofName? (text : String) : Option Level :=
  all.find? fun level => level.name == text

/-- The level a person may have meant: blanks around the name and the case of its letters do not
matter, and `warning` stands for `warn`. -/
def ofText? (text : String) : Option Level :=
  let lower := (Text.trim text).toLower
  if lower == "warning" then some .warn else ofName? lower

end Level

end ScriptExec.Log
