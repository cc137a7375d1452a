-- SUMMARY: Basic regular expressions for lines.

/-!
# Patterns

The basic regular expressions: characters, `.`, bracket expressions, `*` behind any of these, and the
anchors `^` and `$`.
-/

namespace ScriptExec.Shell

/-- What matches one character. -/
inductive Atom
  | char (c : Char)
  | any
  | oneOf (negated : Bool) (ranges : List (Char × Char))

structure Pattern where
  atStart : Bool
  atEnd : Bool
  /-- What matches in a row, and whether any number of times. -/
  items : List (Atom × Bool)

namespace Pattern

def Atom.accepts (c : Char) : Atom → Bool
  | .char d => c == d
  | .any => true
  | .oneOf negated ranges => negated != ranges.any fun r => r.1 ≤ c && c ≤ r.2

/-- The ranges of a bracket expression; a bracket may come first. -/
def ranges (fuel : Nat) (first : Bool) (done : List (Char × Char)) (cs : List Char) :
    Option (List (Char × Char) × List Char) :=
  match fuel with
  | 0 => none
  | fuel + 1 =>
    match cs with
    | [] => none
    | ']' :: rest => if first then ranges fuel false ((']', ']') :: done) rest else some (done, rest)
    | a :: '-' :: b :: rest =>
      if b == ']' then ranges fuel false ((a, a) :: done) ('-' :: b :: rest)
      else ranges fuel false ((a, b) :: done) rest
    | c :: rest => ranges fuel false ((c, c) :: done) rest

/-- Reads the items of a pattern; a dollar sign at the very end is an anchor. -/
def read (fuel : Nat) (atStart : Bool) (done : List (Atom × Bool)) (cs : List Char) :
    Option Pattern :=
  match fuel with
  | 0 => none
  | fuel + 1 =>
    let add (atom : Atom) (rest : List Char) : Option Pattern :=
      match rest with
      | '*' :: rest => read fuel atStart ((atom, true) :: done) rest
      | _ => read fuel atStart ((atom, false) :: done) rest
    match cs with
    | [] => some ⟨atStart, false, done.reverse⟩
    | ['$'] => some ⟨atStart, true, done.reverse⟩
    | '\\' :: c :: rest => add (.char c) rest
    | '.' :: rest => add .any rest
    | '[' :: '^' :: rest => do
      let (found, rest) ← ranges (rest.length + 1) true [] rest
      add (.oneOf true found) rest
    | '[' :: rest => do
      let (found, rest) ← ranges (rest.length + 1) true [] rest
      add (.oneOf false found) rest
    | c :: rest => add (.char c) rest

/-- Reads a pattern. -/
def parse? : List Char → Option Pattern
  | '^' :: rest => read (rest.length + 1) true [] rest
  | cs => read (cs.length + 1) false [] cs

/-- Whether items match at the start of a text, and up to its end if asked. -/
def matchesHere (fuel : Nat) (atEnd : Bool) (items : List (Atom × Bool)) (cs : List Char) : Bool :=
  match fuel with
  | 0 => false
  | fuel + 1 =>
    match items, cs with
    | [], cs => !atEnd || cs.isEmpty
    | (atom, true) :: rest, cs =>
      matchesHere fuel atEnd rest cs ||
        match cs with
        | c :: more => Atom.accepts c atom && matchesHere fuel atEnd ((atom, true) :: rest) more
        | [] => false
    | (atom, false) :: rest, c :: more => Atom.accepts c atom && matchesHere fuel atEnd rest more
    | (_, false) :: _, [] => false

/-- Whether a pattern matches from the first character of a text on. -/
def acceptsHere (pattern : Pattern) (cs : List Char) : Bool :=
  matchesHere (cs.length + pattern.items.length + 1) pattern.atEnd pattern.items cs

/-- Whether a pattern matches from some character of a text on. -/
def acceptsWithin (pattern : Pattern) : List Char → Bool
  | [] => pattern.acceptsHere []
  | c :: rest => pattern.acceptsHere (c :: rest) || pattern.acceptsWithin rest

/-- Whether a line matches. -/
def accepts (pattern : Pattern) (line : List Char) : Bool :=
  if pattern.atStart then pattern.acceptsHere line else pattern.acceptsWithin line

end Pattern

end ScriptExec.Shell
