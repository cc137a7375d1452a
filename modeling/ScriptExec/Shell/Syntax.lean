-- SUMMARY: Commands of the shell.

/-!
# Shell commands

The command language that scripts and `sh -c` are written in. Script texts are bytes, each taken as
the character of its number, so any bytes can stand in a word.
-/

namespace ScriptExec.Shell

/-- What a redirection does with its descriptor. -/
inductive RedirectKind
  | input
  | output
  | append
  /-- Makes it another name of the descriptor in the target, or closes it for `-`. -/
  | duplicate
  deriving DecidableEq, Repr

mutual

/-- A piece of a word. Pieces in quotes are not split into fields. -/
inductive Part
  | text (cs : List Char) (quoted : Bool)
  | parameter (name : String) (quoted : Bool)
  /-- What a command writes. -/
  | output (body : Command) (quoted : Bool)

inductive Redirect
  | mk (descriptor : Nat) (kind : RedirectKind) (target : List Part)

inductive Command
  | skip
  /-- Assignments, words and redirections, on a line of the script. -/
  | simple (line : Nat) (assignments : List (String × List Part)) (words : List (List Part))
      (redirects : List Redirect)
  | sequence (first second : Command)
  /-- The second runs if the first succeeds. -/
  | both (first second : Command)
  /-- The second runs if the first fails. -/
  | either (first second : Command)
  | negate (body : Command)
  | background (body : Command)
  | pipe (left right : Command)
  | subshell (body : Command) (redirects : List Redirect)
  | group (body : Command) (redirects : List Redirect)
  | branch (condition yes no : Command)
  /-- Runs the body as long as the condition succeeds, or as long as it fails (`untilTrue`). -/
  | loop (untilTrue : Bool) (condition body : Command)
  | forEach (name : String) (words : List (List Part)) (body : Command)

end

/-- A word of a script. -/
abbrev Word := List Part

end ScriptExec.Shell
