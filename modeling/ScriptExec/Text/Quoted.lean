-- SUMMARY: Quoted form of a text for messages.
import ScriptExec.Text.Unprintable

/-!
# Quoted text

Messages show a foreign text between double quotes, so that every character of it can be seen: the
quote and the backslash get a backslash, NUL, tab, carriage return and line feed get their letter,
and what has no printed form is written as its code point.
-/

namespace ScriptExec.Text

/-- The digits of a number in base sixteen, lower case and without leading zeros. -/
def hexDigits (n : Nat) : List Char :=
  Nat.toDigits 16 n

/-- A character as it stands inside quotes. -/
def quotedChar (c : Char) : List Char :=
  if c = '\x00' then ['\\', '0']
  else if c = '\t' then ['\\', 't']
  else if c = '\r' then ['\\', 'r']
  else if c = '\n' then ['\\', 'n']
  else if c = '"' then ['\\', '"']
  else if c = '\\' then ['\\', '\\']
  else if isUnprintable c then '\\' :: 'u' :: '\x7b' :: hexDigits c.toNat ++ ['\x7d']
  else [c]

/-- A text between double quotes. -/
def quoted (text : String) : String :=
  String.ofList ('"' :: text.toList.flatMap quotedChar ++ ['"'])

end ScriptExec.Text
