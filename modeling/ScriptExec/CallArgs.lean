-- SUMMARY: Arguments of a builtin call, by position and by name.
import ScriptExec.Value

/-!
# Call arguments

A builtin is called with values by position and by name. An argument that is `null` counts as not
given.
-/

namespace ScriptExec

structure CallArgs where
  positional : List Value := []
  named : Named Value := []
  deriving Inhabited

namespace CallArgs

/-- Arguments from values in order and from named values, of which a later one wins. -/
def ofLists (positional : List Value) (named : List (String × Value)) : CallArgs :=
  { positional, named := Named.ofList named }

/-- A value that counts as given. -/
def given (v : Value) : Option Value :=
  if v.isNull then none else some v

def byName? (args : CallArgs) (key : String) : Option Value :=
  (args.named.find? key).bind given

def byNum? (args : CallArgs) (i : Nat) : Option Value :=
  args.positional[i]?.bind given

def textByName? (args : CallArgs) (key : String) : Option String :=
  (args.byName? key).bind Value.toText?

def bytesByName? (args : CallArgs) (key : String) : Option Bytes :=
  (args.byName? key).bind Value.toBytes?

def textByNum? (args : CallArgs) (i : Nat) : Option String :=
  (args.byNum? i).bind Value.toText?

def intByName (args : CallArgs) (key : String) (default : Int64) : Int64 :=
  ((args.byName? key).bind Value.toInt?).getD default

def intByNum (args : CallArgs) (i : Nat) (default : Int64) : Int64 :=
  ((args.byNum? i).bind Value.toInt?).getD default

end CallArgs

end ScriptExec
