-- SUMMARY: Script arrays: slots by position with holes, and entries by name.
import ScriptExec.Value
import ScriptExec.ArgList

/-!
# Script arrays

An array has slots, counted from zero, and named entries. Storing far out fills the slots between
with `null`. The two parts do not touch each other.
-/

namespace ScriptExec

structure ScriptArray where
  slots : List Value := []
  named : Named Value := []
  deriving Inhabited

namespace ScriptArray

def empty : ScriptArray := {}

def ofList (values : List Value) : ScriptArray :=
  { slots := values }

/-- Stores a value in slot `i`; slots that come into being before it are `null`. -/
def set (a : ScriptArray) (i : Nat) (v : Value) : ScriptArray :=
  { a with slots :=
      if i < a.slots.length then a.slots.set i v
      else a.slots ++ List.replicate (i - a.slots.length) .null ++ [v] }

/-- Stores a value in the slot after the last one. -/
def push (a : ScriptArray) (v : Value) : ScriptArray :=
  { a with slots := a.slots ++ [v] }

/-- Stores a value under a key. -/
def setNamed (a : ScriptArray) (key : String) (v : Value) : ScriptArray :=
  { a with named := a.named.insert key v }

def get? (a : ScriptArray) (i : Nat) : Option Value :=
  a.slots[i]?

def getNamed? (a : ScriptArray) (key : String) : Option Value :=
  a.named.find? key

/-- One past the last slot. -/
def maxIndex (a : ScriptArray) : Nat :=
  a.slots.length

def hasNamed (a : ScriptArray) : Bool :=
  !a.named.isEmpty

/-- The slots as arguments of a program: scalars by their bytes, `null` and nested arrays as holes.
Named entries keep their keys only. -/
def toArgList (a : ScriptArray) : ArgList :=
  { slots := a.slots.map Value.toBytes?, named := a.named.keys }

end ScriptArray

namespace Value

def ofArray (a : ScriptArray) : Value :=
  .array a.slots a.named

def asArray? : Value → Option ScriptArray
  | .array slots named => some ⟨slots, named⟩
  | _ => none

end Value

end ScriptExec
