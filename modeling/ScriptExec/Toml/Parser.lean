-- SUMMARY: Reading TOML documents.
import ScriptExec.Toml.Scalar

/-!
# Reading TOML

A document is a sequence of lines, each a header, a key with a value, or nothing, with a comment at
its end or without. Values nest; every level of nesting takes a character of the text, which bounds the
recursion. A text is either read as a whole or refused.
-/

namespace ScriptExec.Toml

/-! ## Space between tokens -/

def isBlank (c : Char) : Bool :=
  c == ' ' || c == '\t'

/-- Characters that may stand in comments and in quotes: no control character but the tab. -/
def isPlain (c : Char) : Bool :=
  c == '\t' || (' ' ≤ c && c != '\x7f')

def skipBlank (cs : List Char) : List Char :=
  cs.dropWhile isBlank

/-- The text after a line break, if one stands here. -/
def afterNewline? : List Char → Option (List Char)
  | '\n' :: rest => some rest
  | '\r' :: '\n' :: rest => some rest
  | _ => none

/-- The text after blanks, line breaks and comments. -/
def skipVoid (inComment : Bool) : List Char → Option (List Char)
  | [] => some []
  | '\n' :: rest => skipVoid false rest
  | '\r' :: '\n' :: rest => skipVoid false rest
  | c :: rest =>
    if inComment then (if isPlain c then skipVoid true rest else none)
    else if isBlank c then skipVoid false rest
    else if c == '#' then skipVoid true rest
    else some (c :: rest)

/-- The text after the end of a line: blanks and a comment may come before it. -/
def afterLine? (cs : List Char) : Option (List Char) :=
  match skipBlank cs with
  | [] => some []
  | '#' :: rest =>
    match rest.dropWhile isPlain with
    | [] => some []
    | rest => afterNewline? rest
  | rest => afterNewline? rest

/-! ## Texts -/

/-- The character with the code of these digits, unless the code is that of a surrogate or too
large. -/
def escaped? (digits : List Char) : Option Char :=
  if digits.all (Scalar.isDigitOf 16) then
    let code := Scalar.number 16 digits
    if h : code.isValidChar then some (Char.ofNatAux code h) else none
  else none

/-- The character of an escape with a single letter. -/
def shortEscape? : Char → Option Char
  | 'b' => some '\x08'
  | 't' => some '\t'
  | 'n' => some '\n'
  | 'f' => some '\x0c'
  | 'r' => some '\r'
  | 'e' => some '\x1b'
  | '"' => some '"'
  | '\\' => some '\\'
  | _ => none

/-- The character of an escape, and the text after it; the backslash has been read. -/
def escape? : List Char → Option (Char × List Char)
  | 'x' :: a :: b :: rest => (escaped? [a, b]).map (·, rest)
  | 'u' :: a :: b :: c :: d :: rest => (escaped? [a, b, c, d]).map (·, rest)
  | 'U' :: a :: b :: c :: d :: e :: f :: g :: h :: rest =>
    (escaped? [a, b, c, d, e, f, g, h]).map (·, rest)
  | c :: rest => (shortEscape? c).map (·, rest)
  | [] => none

/-- A text between double quotes on one line; `done` is what was read, reversed, and `fuel` bounds the
number of characters. -/
def quotedText (fuel : Nat) (done : List Char) (cs : List Char) : Option (String × List Char) :=
  match fuel with
  | 0 => none
  | fuel + 1 =>
    match cs with
    | '"' :: rest => some (String.ofList done.reverse, rest)
    | '\\' :: rest => do
      let (c, rest) ← escape? rest
      quotedText fuel (c :: done) rest
    | c :: rest => if isPlain c then quotedText fuel (c :: done) rest else none
    | [] => none

/-- A text between single quotes on one line. -/
def literalText (done : List Char) : List Char → Option (String × List Char)
  | '\'' :: rest => some (String.ofList done.reverse, rest)
  | c :: rest => if isPlain c then literalText (c :: done) rest else none
  | [] => none

/-- A text between three quotes of one kind; up to two more of them may stand before the end. Between
double quotes a backslash starts an escape, and one at the end of a line takes away all blanks and line
breaks after it (`trimming`). -/
def multilineText (quote : Char) (fuel : Nat) (trimming : Bool) (done : List Char) (cs : List Char) :
    Option (String × List Char) :=
  match fuel with
  | 0 => none
  | fuel + 1 =>
    match afterNewline? cs with
    | some rest =>
      multilineText quote fuel trimming (if trimming then done else '\n' :: done) rest
    | none =>
      match cs.span (· == quote) with
      | (run, rest) =>
        if 3 ≤ run.length then
          let extra := min (run.length - 3) 2
          let rest := List.replicate (run.length - 3 - extra) quote ++ rest
          some (String.ofList (List.replicate extra quote ++ done).reverse, rest)
        else if !run.isEmpty then
          multilineText quote fuel false (run ++ done) rest
        else
          match rest with
          | [] => none
          | c :: rest =>
            if trimming && isBlank c then multilineText quote fuel true done rest
            else if quote == '"' && c == '\\' then
              if (afterNewline? (skipBlank rest)).isSome then multilineText quote fuel true done rest
              else do
                let (c, rest) ← escape? rest
                multilineText quote fuel false (c :: done) rest
            else if isPlain c then multilineText quote fuel false (c :: done) rest
            else none

/-- The text after the line break that may follow an opening triple quote. -/
def dropFirstNewline (cs : List Char) : List Char :=
  (afterNewline? cs).getD cs

/-- A text in any quotes. -/
def anyText : List Char → Option (String × List Char)
  | '"' :: '"' :: '"' :: rest =>
    multilineText '"' (rest.length + 1) false [] (dropFirstNewline rest)
  | '\'' :: '\'' :: '\'' :: rest =>
    multilineText '\'' (rest.length + 1) false [] (dropFirstNewline rest)
  | '"' :: rest => quotedText (rest.length + 1) [] rest
  | '\'' :: rest => literalText [] rest
  | _ => none

/-! ## Keys -/

/-- Characters of keys without quotes. -/
def isBareKey (c : Char) : Bool :=
  c.isAlphanum || c == '-' || c == '_'

/-- A key without dots: bare, or in single or double quotes on one line. -/
def simpleKey : List Char → Option (String × List Char)
  | '"' :: rest => quotedText (rest.length + 1) [] rest
  | '\'' :: rest => literalText [] rest
  | cs =>
    match cs.takeWhile isBareKey with
    | [] => none
    | key => some (String.ofList key, cs.dropWhile isBareKey)

/-- Keys separated by dots, blanks allowed around each dot. -/
def dottedKey (fuel : Nat) (cs : List Char) : Option (List String × List Char) :=
  match fuel with
  | 0 => none
  | fuel + 1 => do
    let (key, rest) ← simpleKey cs
    match skipBlank rest with
    | '.' :: more =>
      let (path, rest) ← dottedKey fuel (skipBlank more)
      return (key :: path, rest)
    | rest => return ([key], rest)

/-- A dotted key and the equals sign after it. -/
def keyAndEquals (cs : List Char) : Option (List String × List Char) := do
  match ← dottedKey (cs.length + 1) cs with
  | (path, '=' :: rest) => return (path, skipBlank rest)
  | _ => none

/-! ## Values -/

/-- Characters that end a word without quotes. -/
def endsWord (c : Char) : Bool :=
  c == ' ' || c == '\t' || c == '\n' || c == '\r' || c == ',' || c == ']' || c == '\x7d' || c == '#'

/-- A scalar without quotes. A date may be continued by one space and a time. -/
def unquoted (cs : List Char) : Option (Value × List Char) := do
  let word := cs.takeWhile (!endsWord ·)
  let rest := cs.dropWhile (!endsWord ·)
  match rest with
  | ' ' :: c :: more =>
    if Scalar.isDate word && c.isDigit then
      let time := (c :: more).takeWhile (!endsWord ·)
      return (← Scalar.ofWord? (word ++ ' ' :: time), (c :: more).dropWhile (!endsWord ·))
    else return (← Scalar.ofWord? word, rest)
  | _ => return (← Scalar.ofWord? word, rest)

mutual

/-- A value of any kind. -/
def value (fuel : Nat) (cs : List Char) : Option (Value × List Char) :=
  match fuel with
  | 0 => none
  | fuel + 1 =>
    match cs with
    | '[' :: rest => do
      let (items, rest) ← arrayItems fuel [] rest
      return (.array items, rest)
    | '\x7b' :: rest => do
      let (table, rest) ← tableEntries fuel [] rest
      return (.table .inline table, rest)
    | '"' :: _ | '\'' :: _ => do
      let (text, rest) ← anyText cs
      return (.text text, rest)
    | _ => unquoted cs

/-- The items of an array up to its bracket; a comma may follow the last. -/
def arrayItems (fuel : Nat) (done : List Value) (cs : List Char) : Option (List Value × List Char) :=
  match fuel with
  | 0 => none
  | fuel + 1 => do
    match ← skipVoid false cs with
    | ']' :: rest => return (done.reverse, rest)
    | cs =>
      let (item, rest) ← value fuel cs
      match ← skipVoid false rest with
      | ',' :: rest => arrayItems fuel (item :: done) rest
      | ']' :: rest => return ((item :: done).reverse, rest)
      | _ => none

/-- The entries of a table in braces; a comma may follow the last. -/
def tableEntries (fuel : Nat) (done : Table) (cs : List Char) : Option (Table × List Char) :=
  match fuel with
  | 0 => none
  | fuel + 1 => do
    match ← skipVoid false cs with
    | '\x7d' :: rest => return (done, rest)
    | cs =>
      let (path, rest) ← keyAndEquals cs
      let (item, rest) ← value fuel rest
      let done ← done.assign item path
      match ← skipVoid false rest with
      | ',' :: rest => tableEntries fuel done rest
      | '\x7d' :: rest => return (done, rest)
      | _ => none

end

/-! ## Documents -/

/-- A document under way: its table, and the keys of the last header. -/
structure Document where
  table : Table := []
  header : List String := []

/-- The keys of a header between its brackets. -/
def headerKeys (cs : List Char) : Option (List String × List Char) :=
  dottedKey (cs.length + 1) (skipBlank cs)

/-- Opens the table of a header. -/
def Document.openHeader (doc : Document) (many : Bool) (path : List String) : Option Document := do
  let key ← path.getLast?
  let change := if many then Table.openTables key else Table.openTable key
  return { table := ← doc.table.within change path.dropLast, header := path }

/-- Reads one statement, and the end of its line. -/
def Document.statement (doc : Document) : List Char → Option (Document × List Char)
  | '[' :: '[' :: rest => do
    match ← headerKeys rest with
    | (path, ']' :: ']' :: rest) => return (← doc.openHeader true path, ← afterLine? rest)
    | _ => none
  | '[' :: rest => do
    match ← headerKeys rest with
    | (path, ']' :: rest) => return (← doc.openHeader false path, ← afterLine? rest)
    | _ => none
  | cs => do
    let (path, rest) ← keyAndEquals cs
    let (item, rest) ← value (2 * rest.length + 2) rest
    let table ← doc.table.within (Table.assign item path) doc.header
    return ({ doc with table }, ← afterLine? rest)

/-- Reads statements to the end of the text. -/
def Document.run (doc : Document) (fuel : Nat) (cs : List Char) : Option Document :=
  match fuel with
  | 0 => none
  | fuel + 1 => do
    match ← skipVoid false cs with
    | [] => return doc
    | cs =>
      let (doc, rest) ← doc.statement cs
      doc.run fuel rest

/-- Reads a document. A byte order mark may stand in front of it. -/
def parse? (text : String) : Option Table := do
  let cs := match text.toList with
    | '\uFEFF' :: rest => rest
    | cs => cs
  return (← Document.run {} (cs.length + 1) cs).table

end ScriptExec.Toml
