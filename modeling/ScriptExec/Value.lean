-- SUMMARY: Values of scripts: integers, texts, data and arrays, with their byte and integer forms.
import ScriptExec.Named
import ScriptExec.Text.Utf8

/-!
# Script values

What scripts hand to the builtins and get back from them. Scalars have a byte form; text and
integer forms are read off it. `null` and arrays have none of the three.
-/

namespace ScriptExec

inductive Value
  /-- A variable without a value, or an empty slot of an array. -/
  | null
  | int (i : Int64)
  | str (text : String)
  /-- Bytes that need not be text. -/
  | data (bytes : Bytes)
  /-- Slots by position, and entries by name. -/
  | array (slots : List Value) (named : List (String × Value))

namespace Value

instance : Inhabited Value := ⟨.null⟩

/-- The decimal text of an integer. -/
def decimal (i : Int64) : Bytes :=
  Decimal.ofInt i.toInt

/-- The integer at the start of some bytes: blanks are skipped, one sign may follow, then digits are
read up to the first byte that is none. Without digits it is zero; digits beyond 64 bits wrap. -/
def leadingInt (bytes : Bytes) : Int64 :=
  match bytes.dropWhile Byte.isBlank with
  | 0x2d :: rest => -magnitude rest
  | 0x2b :: rest => magnitude rest
  | rest => magnitude rest
where
  magnitude (bytes : Bytes) : Int64 :=
    (bytes.takeWhile Byte.isDigit).foldl
      (fun n b => n * 10 + Int64.ofNat (Byte.digitValue b)) 0

/-- The bytes of a scalar: integers in decimal, texts in UTF-8, data as it is. -/
def toBytes? : Value → Option Bytes
  | .null => none
  | .int i => some (decimal i)
  | .str text => some (utf8 text)
  | .data bytes => some bytes
  | .array _ _ => none

/-- The text of a scalar; ill-formed bytes of data become replacement characters. -/
def toText? : Value → Option String
  | .str text => some text
  | v => v.toBytes?.map Utf8.decodeLossy

/-- The integer of a scalar; texts and data are read from their start. -/
def toInt? : Value → Option Int64
  | .null => none
  | .int i => some i
  | .str text => some (leadingInt (utf8 text))
  | .data bytes => some (leadingInt bytes)
  | .array _ _ => none

/-- The number of bytes of a scalar, and zero for other values. -/
def byteLength (v : Value) : Nat :=
  (v.toBytes?.map List.length).getD 0

/-- The name of a value's type in messages. -/
def typeName : Value → String
  | .null => "null"
  | .int _ => "int"
  | .str _ => "string"
  | .data _ => "data"
  | .array _ _ => "array"

def isNull : Value → Bool
  | .null => true
  | _ => false

/-! ## Equality -/

mutual

/-- Equality of type and content; a text and data with the same bytes differ. -/
def same : Value → Value → Bool
  | .null, .null => true
  | .int i, .int j => i == j
  | .str a, .str b => a == b
  | .data a, .data b => a == b
  | .array slots named, .array slots' named' => sameSlots slots slots' && sameNamed named named'
  | _, _ => false

/-- Equality slot by slot. -/
def sameSlots : List Value → List Value → Bool
  | [], [] => true
  | v :: vs, w :: ws => same v w && sameSlots vs ws
  | _, _ => false

/-- Equality entry by entry. -/
def sameNamed : List (String × Value) → List (String × Value) → Bool
  | [], [] => true
  | (k, v) :: vs, (l, w) :: ws => k == l && same v w && sameNamed vs ws
  | _, _ => false

end

instance : BEq Value := ⟨same⟩

end Value

end ScriptExec
