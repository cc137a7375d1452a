-- SUMMARY: From the pieces of expanded words to fields: splitting, empty fields and file name patterns.
import ScriptExec.Shell.Machine

/-!
# Fields

An expanded word is a row of pieces. Blanks that are not quoted split it into fields; quotes keep a
field even if it is empty. A field with a `*` or `?` outside quotes stands for the matching paths, if
there are any.
-/

namespace ScriptExec.Shell

/-- A piece of an expanded word. -/
inductive Piece
  | char (c : Char) (quoted : Bool)
  /-- A new field starts here. -/
  | cut
  /-- Quotes, which make a field even without characters. -/
  | mark
  /-- A list of no fields, which undoes the quotes around it. -/
  | nothing
  deriving DecidableEq, Repr

/-- A field: its characters, each with whether it was quoted. -/
abbrev Field := List (Char × Bool)

namespace Field

/-- The field being read, newest character first, and what speaks for and against its being one. -/
structure Open where
  reversed : Field := []
  marked : Bool := false
  nothing : Bool := false

/-- The field, if it is one. -/
def Open.close (o : Open) : List Field :=
  if o.reversed.isEmpty && (!o.marked || o.nothing) then [] else [o.reversed.reverse]

def isSeparator (c : Char) : Bool :=
  c == ' ' || c == '\t' || c == '\n'

/-- Splits pieces into fields. -/
def split (o : Open) : List Piece → List Field
  | [] => o.close
  | .char c quoted :: rest =>
    if !quoted && isSeparator c then o.close ++ split {} rest
    else split { o with reversed := (c, quoted) :: o.reversed } rest
  | .cut :: rest => o.close ++ split { marked := true } rest
  | .mark :: rest => split { o with marked := true } rest
  | .nothing :: rest => split { o with nothing := true } rest

/-- All characters of some pieces, as one text. -/
def joined (pieces : List Piece) : List Char :=
  pieces.filterMap fun
    | .char c _ => some c
    | .cut => some ' '
    | _ => none

/-! ## File names -/

def isPattern (field : Field) : Bool :=
  field.any fun item => !item.2 && (item.1 == '*' || item.1 == '?')

/-- Whether a name matches. -/
def accepts : Field → List Char → Bool
  | [], cs => cs.isEmpty
  | (c, quoted) :: rest, cs =>
    if c == '*' && !quoted then anyEnd rest cs
    else
      match cs with
      | [] => false
      | d :: more => ((c == '?' && !quoted) || c == d) && accepts rest more
where
  anyEnd (rest : Field) : List Char → Bool
    | [] => accepts rest []
    | c :: more => accepts rest (c :: more) || anyEnd rest more

/-- A field in parts, between its slashes. -/
def parts (field : Field) : List Field :=
  field.foldr
    (fun item parts =>
      match item.1, parts with
      | '/', _ => [] :: parts
      | _, part :: rest => (item :: part) :: rest
      | _, [] => [[item]])
    [[]]

def literal (field : Field) : Bytes :=
  bytesOf (field.map (·.1))

/-- The names in a directory that a part of a field stands for. A leading dot is only matched by a
dot. -/
def fileNames (sys : Host.System) (dir : Path) (part : Field) : List Bytes :=
  match sys.tree.resolve sys.cwd true (if dir.isEmpty then Path.here else dir) with
  | .ok (_, { content := .directory _ entries _, .. }) =>
    let hidden := (part.head?.map (·.1)) == some '.'
    ((entries.map (·.1)).filter fun name =>
      (hidden || name.head? != some Byte.dot) && accepts part (charsOf name)).mergeSort (· ≤ ·)
  | _ => []

/-- The paths that some parts stand for, behind a path that is known. -/
def paths (sys : Host.System) (dir : Path) : List Field → List Path
  | [] => []
  | [part] =>
    if isPattern part then (fileNames sys dir part).map (dir ++ ·)
    else
      let path := dir ++ part.literal
      if (sys.tree.resolve sys.cwd false path).toOption.isSome then [path] else []
  | part :: rest =>
    if isPattern part then
      (fileNames sys dir part).flatMap fun name => paths sys (dir ++ name ++ [Byte.slash]) rest
    else paths sys (dir ++ part.literal ++ [Byte.slash]) rest

/-- The texts that a field stands for. -/
def texts (sys : Host.System) (field : Field) : List Bytes :=
  if isPattern field then
    match paths sys [] field.parts with
    | [] => [field.literal]
    | found => found
  else [field.literal]

end Field

end ScriptExec.Shell
