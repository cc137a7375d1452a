-- SUMMARY: Byte strings: the bytes of a text, the bytes with a role of their own, and ASCII classes.

/-!
# Byte strings

Files, arguments and captured output are raw bytes. A text has the bytes of its UTF-8 form.
-/

namespace ScriptExec

/-- Raw bytes, not necessarily text. -/
abbrev Bytes := List UInt8

/-- The UTF-8 form of a text. -/
def utf8 (text : String) : Bytes :=
  text.toList.flatMap String.utf8EncodeChar

namespace Byte

def nul : UInt8 := 0x00
def newline : UInt8 := 0x0a
def space : UInt8 := 0x20
def plus : UInt8 := 0x2b
def minus : UInt8 := 0x2d
def dot : UInt8 := 0x2e
def slash : UInt8 := 0x2f
def colon : UInt8 := 0x3a
def tilde : UInt8 := 0x7e

/-- `0` to `9`. -/
def isDigit (b : UInt8) : Bool :=
  0x30 ≤ b && b ≤ 0x39

/-- The value of a digit. -/
def digitValue (b : UInt8) : Nat :=
  b.toNat - 0x30

/-- Space, tab, line feed, form feed and carriage return; not the vertical tab. -/
def isBlank (b : UInt8) : Bool :=
  b == 0x20 || b == 0x09 || b == 0x0a || b == 0x0c || b == 0x0d

end Byte

/-! ## Decimal text -/

namespace Decimal

/-- The byte that writes a digit below ten. -/
def digit (n : Nat) : UInt8 :=
  UInt8.ofNat (0x30 + n)

/-- The digits of a number, most significant first and without leading zeros. -/
def ofNat (n : Nat) : Bytes :=
  if n < 10 then [digit n] else ofNat (n / 10) ++ [digit (n % 10)]

/-- Decimal text with a minus sign in front of the digits of a negative number. -/
def ofInt : Int → Bytes
  | .ofNat n => ofNat n
  | .negSucc n => Byte.minus :: ofNat (n + 1)

/-- The number that a run of digits denotes; the empty run denotes zero. -/
def toNat (digits : Bytes) : Nat :=
  digits.foldl (fun n b => n * 10 + Byte.digitValue b) 0

end Decimal

end ScriptExec
