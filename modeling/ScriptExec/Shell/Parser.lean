-- SUMMARY: Reading shell scripts.
import ScriptExec.Shell.Syntax

/-!
# Reading shell scripts

A script is read by recursive descent. Every function takes the text that is left together with the
number of the line, and gives back what it did not read; `fuel` bounds the depth of the recursion and
is taken from the length of the text.
-/

namespace ScriptExec.Shell

/-- The text that is left, and the line it is on. -/
structure Source where
  rest : List Char
  line : Nat

namespace Source

/-- Goes past the first character. -/
def next (src : Source) : Source :=
  match src.rest with
  | '\n' :: rest => ⟨rest, src.line + 1⟩
  | _ :: rest => ⟨rest, src.line⟩
  | [] => src

/-- Goes past `n` characters. -/
def skip (src : Source) : Nat → Source
  | 0 => src
  | n + 1 => src.next.skip n

/-- Goes past blanks and joined lines on the same line, and past a comment. -/
def dropBlanks (src : Source) : Source :=
  go src.rest src.line
where
  go : List Char → Nat → Source
    | '\\' :: '\n' :: rest, line => go rest (line + 1)
    | ' ' :: rest, line => go rest line
    | '\t' :: rest, line => go rest line
    | '#' :: rest, line => ⟨rest.dropWhile (· != '\n'), line⟩
    | rest, line => ⟨rest, line⟩

end Source

/-- Characters that end a word outside quotes. -/
def endsWord (c : Char) : Bool :=
  c == ' ' || c == '\t' || c == '\n' || c == ';' || c == '&' || c == '|' || c == '<' || c == '>' ||
    c == '(' || c == ')'

def isNameStart (c : Char) : Bool :=
  c.isAlpha || c == '_'

def isNameChar (c : Char) : Bool :=
  c.isAlphanum || c == '_'

/-- Words that are not commands where a command is expected. -/
def isReserved (word : List Char) : Bool :=
  word == "then".toList || word == "else".toList || word == "elif".toList || word == "fi".toList ||
    word == "do".toList || word == "done".toList || word == ['\x7d']

/-- The bare word at the start of a text. -/
def peekWord (src : Source) : List Char :=
  src.rest.takeWhile (!endsWord ·)

/-- The name of an assignment and the length up to its equals sign. -/
def assignmentName? (cs : List Char) : Option (String × Nat) :=
  match cs with
  | c :: _ =>
    let name := cs.takeWhile isNameChar
    if isNameStart c && (cs.drop name.length).head? == some '=' then
      some (String.ofList name, name.length + 1)
    else none
  | [] => none

/-- The descriptor that a redirection starts with, how many digits name it, and the operator. -/
def redirect? (cs : List Char) : Option (Nat × RedirectKind × Nat) :=
  let digits := cs.takeWhile Char.isDigit
  let given := if digits.isEmpty then none else some (digits.foldl (fun n c => n * 10 + (c.toNat - 48)) 0)
  match cs.drop digits.length with
  | '>' :: '>' :: _ => some (given.getD 1, .append, digits.length + 2)
  | '>' :: '&' :: _ => some (given.getD 1, .duplicate, digits.length + 2)
  | '>' :: '|' :: _ => some (given.getD 1, .output, digits.length + 2)
  | '>' :: _ => some (given.getD 1, .output, digits.length + 1)
  | '<' :: '&' :: _ => some (given.getD 0, .duplicate, digits.length + 2)
  | '<' :: '<' :: _ => none
  | '<' :: _ => some (given.getD 0, .input, digits.length + 1)
  | _ => none

/-- The text between single quotes, and the number of characters up to the closing one. -/
def singleQuoted (src : Source) : Option (List Char × Source) :=
  let text := src.rest.takeWhile (· != '\'')
  let after := src.skip text.length
  match after.rest with
  | '\'' :: _ => some (text, after.next)
  | _ => none

/-- The mark around a command whose output is meant. -/
def isBackquote (c : Char) : Bool :=
  c.toNat == 0x60

/-- The text up to a backquote, which may stand in it behind a backslash, and the text after it. -/
def backquoted : List Char → Option (List Char × List Char)
  | [] => none
  | '\\' :: c :: rest =>
    let kept := if isBackquote c || c == '\\' || c == '$' then [c] else ['\\', c]
    (backquoted rest).map fun (text, after) => (kept ++ text, after)
  | c :: rest =>
    if isBackquote c then some ([], rest)
    else (backquoted rest).map fun (text, after) => (c :: text, after)

mutual

/-- A command between backquotes, of which the first has been read. -/
def parseBackquoted (fuel : Nat) (quoted : Bool) (src : Source) : Option (Part × Source) :=
  match fuel with
  | 0 => none
  | fuel + 1 => do
    let (text, after) ← backquoted src.rest
    let (body, inner) ← parseList fuel ⟨text, src.line⟩
    if inner.rest.isEmpty then return (.output body quoted, src.skip (src.rest.length - after.length))
    else none

/-- A parameter or a command in a word; the dollar sign has been read. Without either the dollar sign
stands for itself. -/
def parseDollar (fuel : Nat) (quoted : Bool) (src : Source) : Option (Part × Source) :=
  match fuel with
  | 0 => none
  | fuel + 1 =>
    match src.rest with
    | '(' :: _ => do
      let (body, src) ← parseList fuel src.next
      match src.rest with
      | ')' :: _ => return (.output body quoted, src.next)
      | _ => none
    | '\x7b' :: rest =>
      let name := rest.takeWhile (· != '\x7d')
      some (.parameter (String.ofList name) quoted, src.skip (name.length + 2))
    | c :: rest =>
      if isNameStart c then
        let name := c :: rest.takeWhile isNameChar
        some (.parameter (String.ofList name) quoted, src.skip name.length)
      else if c.isDigit || c == '@' || c == '*' || c == '#' || c == '?' || c == '$' || c == '!' then
        some (.parameter (String.ofList [c]) quoted, src.next)
      else some (.text ['$'] quoted, src)
    | [] => some (.text ['$'] quoted, src)

/-- The pieces between double quotes, up to the closing one. -/
def parseQuoted (fuel : Nat) (done : List Part) (src : Source) : Option (List Part × Source) :=
  match fuel with
  | 0 => none
  | fuel + 1 =>
    match src.rest with
    | [] => none
    | '"' :: _ => some (done.reverse, src.next)
    | '$' :: _ => do
      let (part, src) ← parseDollar fuel true src.next
      parseQuoted fuel (part :: done) src
    | '\\' :: '\n' :: _ => parseQuoted fuel done (src.skip 2)
    | '\\' :: c :: _ =>
      if c == '$' || c == '"' || c == '\\' || isBackquote c then
        parseQuoted fuel (.text [c] true :: done) (src.skip 2)
      else parseQuoted fuel (.text ['\\'] true :: done) src.next
    | c :: _ =>
      if isBackquote c then do
        let (part, src) ← parseBackquoted fuel true src.next
        parseQuoted fuel (part :: done) src
      else parseQuoted fuel (.text [c] true :: done) src.next

/-- The pieces of a word, up to its end. -/
def parseWord (fuel : Nat) (done : List Part) (src : Source) : Option (Word × Source) :=
  match fuel with
  | 0 => none
  | fuel + 1 =>
    match src.rest with
    | [] => some (done.reverse, src)
    | '\'' :: _ => do
      let (text, src) ← singleQuoted src.next
      parseWord fuel (.text text true :: done) src
    | '"' :: _ => do
      let (parts, src) ← parseQuoted fuel [.text [] true] src.next
      parseWord fuel (parts.reverse ++ done) src
    | '$' :: _ => do
      let (part, src) ← parseDollar fuel false src.next
      parseWord fuel (part :: done) src
    | '\\' :: '\n' :: _ => parseWord fuel done (src.skip 2)
    | '\\' :: c :: _ => parseWord fuel (.text [c] true :: done) (src.skip 2)
    | c :: _ =>
      if endsWord c then some (done.reverse, src)
      else if isBackquote c then do
        let (part, src) ← parseBackquoted fuel false src.next
        parseWord fuel (part :: done) src
      else parseWord fuel (.text [c] false :: done) src.next

/-- A redirection, if one stands here. -/
def parseRedirect (fuel : Nat) (src : Source) : Option (Option Redirect × Source) :=
  match fuel with
  | 0 => none
  | fuel + 1 =>
    match redirect? src.rest with
    | none => some (none, src)
    | some (descriptor, kind, length) => do
      let (target, src) ← parseWord fuel [] (src.skip length).dropBlanks
      if target.isEmpty then none
      else return (some (.mk descriptor kind target), src)

/-- The redirections after a compound command. -/
def parseRedirects (fuel : Nat) (done : List Redirect) (src : Source) :
    Option (List Redirect × Source) :=
  match fuel with
  | 0 => none
  | fuel + 1 => do
    match ← parseRedirect fuel src.dropBlanks with
    | (some redirect, src) => parseRedirects fuel (redirect :: done) src
    | (none, src) => return (done.reverse, src)

/-- The words of a loop. -/
def parseWords (fuel : Nat) (done : List Word) (src : Source) : Option (List Word × Source) :=
  match fuel with
  | 0 => none
  | fuel + 1 => do
    let src := src.dropBlanks
    let (word, after) ← parseWord fuel [] src
    if word.isEmpty then return (done.reverse, src)
    else parseWords fuel (word :: done) after

/-- The assignments, words and redirections of a simple command. -/
def parseSimple (fuel : Nat) (line : Nat) (assignments : List (String × Word)) (words : List Word)
    (redirects : List Redirect) (src : Source) : Option (Command × Source) :=
  match fuel with
  | 0 => none
  | fuel + 1 => do
    let src := src.dropBlanks
    match ← parseRedirect fuel src with
    | (some redirect, src) => parseSimple fuel line assignments words (redirects ++ [redirect]) src
    | (none, src) =>
      match (if words.isEmpty then assignmentName? src.rest else none) with
      | some (name, length) =>
        let (value, src) ← parseWord fuel [] (src.skip length)
        parseSimple fuel line (assignments ++ [(name, value)]) words redirects src
      | none =>
        let (word, after) ← parseWord fuel [] src
        if word.isEmpty then
          if assignments.isEmpty && words.isEmpty && redirects.isEmpty then none
          else return (.simple line assignments words redirects, src)
        else parseSimple fuel line assignments (words ++ [word]) redirects after

/-- The word that ends or continues a compound command. -/
def expectWord (src : Source) (word : String) : Option Source :=
  let src := src.dropBlanks
  if peekWord src == word.toList then some (src.skip word.length) else none

/-- What follows the condition of `if` or `elif`. -/
def parseBranch (fuel : Nat) (src : Source) : Option (Command × Source) :=
  match fuel with
  | 0 => none
  | fuel + 1 => do
    let (condition, src) ← parseList fuel src
    let (yes, src) ← parseList fuel (← expectWord src "then")
    match expectWord src "elif" with
    | some src =>
      let (no, src) ← parseBranch fuel src
      return (.branch condition yes no, src)
    | none =>
      match expectWord src "else" with
      | some src =>
        let (no, src) ← parseList fuel src
        return (.branch condition yes no, ← expectWord src "fi")
      | none => return (.branch condition yes .skip, ← expectWord src "fi")

/-- A command without operators between its parts. -/
def parseCommand (fuel : Nat) (src : Source) : Option (Command × Source) :=
  match fuel with
  | 0 => none
  | fuel + 1 => do
    let src := src.dropBlanks
    match src.rest with
    | '(' :: _ =>
      let (body, src) ← parseList fuel src.next
      match src.rest with
      | ')' :: _ =>
        let (redirects, src) ← parseRedirects fuel [] src.next
        return (.subshell body redirects, src)
      | _ => none
    | _ =>
      let word := peekWord src
      if word == ['\x7b'] then
        let (body, src) ← parseList fuel src.next
        let (redirects, src) ← parseRedirects fuel [] (← expectWord src "\x7d")
        return (.group body redirects, src)
      else if word == ['!'] then
        let (body, src) ← parsePipeline fuel src.next
        return (.negate body, src)
      else if word == "if".toList then
        let (command, src) ← parseBranch fuel (src.skip 2)
        let (redirects, src) ← parseRedirects fuel [] src
        return (if redirects.isEmpty then command else .group command redirects, src)
      else if word == "while".toList || word == "until".toList then
        let (condition, src) ← parseList fuel (src.skip 5)
        let (body, src) ← parseList fuel (← expectWord src "do")
        let (redirects, src) ← parseRedirects fuel [] (← expectWord src "done")
        let command := Command.loop (word == "until".toList) condition body
        return (if redirects.isEmpty then command else .group command redirects, src)
      else if word == "for".toList then
        let src := (src.skip 3).dropBlanks
        let name := peekWord src
        let src := (src.skip name.length).dropBlanks
        let (words, src) ←
          match expectWord src "in" with
          | some src => parseWords fuel [] src
          | none => some ([[.parameter "@" true]], src)
        let src := src.dropBlanks
        let src := if src.rest.head? == some ';' || src.rest.head? == some '\n' then src.next else src
        let src := skipLines fuel src
        let (body, src) ← parseList fuel (← expectWord src "do")
        let (redirects, src) ← parseRedirects fuel [] (← expectWord src "done")
        let command := Command.forEach (String.ofList name) words body
        return (if redirects.isEmpty then command else .group command redirects, src)
      else if isReserved word then none
      else parseSimple fuel src.line [] [] [] src

/-- Goes past line breaks. -/
def skipLines (fuel : Nat) (src : Source) : Source :=
  match fuel with
  | 0 => src
  | fuel + 1 =>
    let src := src.dropBlanks
    if src.rest.head? == some '\n' then skipLines fuel src.next else src

/-- Commands joined by pipes. -/
def parsePipeline (fuel : Nat) (src : Source) : Option (Command × Source) :=
  match fuel with
  | 0 => none
  | fuel + 1 => do
    let (left, src) ← parseCommand fuel src
    let src := src.dropBlanks
    match src.rest with
    | '|' :: '|' :: _ => return (left, src)
    | '|' :: _ =>
      let (right, src) ← parsePipeline fuel (skipLines fuel src.next)
      return (.pipe left right, src)
    | _ => return (left, src)

/-- Pipelines joined by `&&` and `||`, from left to right. -/
def parseAndOr (fuel : Nat) (left : Command) (src : Source) : Option (Command × Source) :=
  match fuel with
  | 0 => none
  | fuel + 1 => do
    let src := src.dropBlanks
    match src.rest with
    | '&' :: '&' :: _ =>
      let (right, src) ← parsePipeline fuel (skipLines fuel (src.skip 2))
      parseAndOr fuel (.both left right) src
    | '|' :: '|' :: _ =>
      let (right, src) ← parsePipeline fuel (skipLines fuel (src.skip 2))
      parseAndOr fuel (.either left right) src
    | _ => return (left, src)

/-- Commands one after the other, up to the end of the text, a closing parenthesis, or a word that ends
a compound command. -/
def parseList (fuel : Nat) (src : Source) : Option (Command × Source) :=
  match fuel with
  | 0 => none
  | fuel + 1 => do
    let src := skipLines fuel src
    if src.rest.isEmpty || src.rest.head? == some ')' || isReserved (peekWord src) then
      return (.skip, src)
    else
      let (first, src) ← parsePipeline fuel src
      let (first, src) ← parseAndOr fuel first src
      let src := src.dropBlanks
      match src.rest with
      | ';' :: _ | '\n' :: _ =>
        let (second, src) ← parseList fuel src.next
        return (.sequence first second, src)
      | '&' :: _ =>
        let (second, src) ← parseList fuel src.next
        return (.sequence (.background first) second, src)
      | _ => return (first, src)

end

/-- Reads a script. -/
def parse? (text : List Char) : Option Command := do
  let (command, src) ← parseList (8 * text.length + 64) ⟨text, 1⟩
  if src.rest.isEmpty then return command else none

end ScriptExec.Shell
