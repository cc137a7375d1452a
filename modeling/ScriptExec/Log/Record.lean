-- SUMMARY: Log records and how their messages are shown.
import ScriptExec.Log.Level
import ScriptExec.Text.Quoted

/-!
# Log records

A record has a level, the target it is written under, the names of its fields, and a message. In the
log a message takes one line, and characters that a terminal would act on are spelt out.
-/

namespace ScriptExec.Log

structure Record where
  level : Level
  /-- The part of the program that writes the record. -/
  target : String
  /-- Names of the fields besides the message. -/
  fields : List String
  message : String
  deriving DecidableEq, Repr, Inhabited

/-- The target of what scripts are told. -/
def scriptTarget : String := "nasl"

/-- The target of the program's own records. -/
def programTarget : String := "nasl_exec"

/-- A record of a part of the program. -/
def Record.of (level : Level) (part : String) (fields : List String) (message : String) : Record :=
  { level, fields, message
    target := if part.isEmpty then programTarget else s!"{programTarget}::{part}" }

/-- A record of what a script is told. -/
def Record.forScript (level : Level) (text : String) : Record :=
  { level, target := scriptTarget, fields := [], message := Text.trimEnd text }

/-- Spells out the characters that start or end terminal commands. -/
def shownChar (c : Char) : List Char :=
  if c == '\x1b' || c == '\x07' || c == '\x08' || c == '\x0c' || c == '\x7f' then
    ['\\', 'x'] ++ (if c.toNat < 16 then ['0'] else []) ++ Text.hexDigits c.toNat
  else if 0x80 ≤ c.toNat && c.toNat ≤ 0x9f then
    "\\u\x7b".toList ++ Text.hexDigits c.toNat ++ ['\x7d']
  else [c]

/-- The first line of the message, as the log shows it. -/
def Record.firstLine (record : Record) : String :=
  String.ofList ((record.message.toList.takeWhile (· != '\n')).flatMap shownChar)

end ScriptExec.Log
