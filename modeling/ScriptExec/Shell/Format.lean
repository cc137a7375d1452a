-- SUMMARY: Texts that commands build: escapes, formats, character sets and decimal numbers.
import ScriptExec.Bytes

/-!
# Escapes and formats

How `echo` and `printf` turn their arguments into output, and how `tr` reads its sets. Bytes are read
as the characters of their numbers.
-/

namespace ScriptExec.Shell

/-- Bytes as characters of the same numbers. -/
def charsOf (bytes : Bytes) : List Char :=
  bytes.map fun b => Char.ofNat b.toNat

/-- Characters below 256 as bytes of the same numbers. -/
def bytesOf (cs : List Char) : Bytes :=
  cs.map fun c => UInt8.ofNat c.toNat

def isOctal (c : Char) : Bool :=
  '0' ≤ c && c ≤ '7'

/-- The character with the number of these octal digits. -/
def octal (digits : List Char) : Char :=
  Char.ofNat (digits.foldl (fun n c => n * 8 + (c.toNat - 48)) 0 % 256)

/-- The character of a backslash and one letter. -/
def letterEscape? : Char → Option Char
  | 'a' => some '\x07'
  | 'b' => some '\x08'
  | 'f' => some '\x0c'
  | 'n' => some '\n'
  | 'r' => some '\r'
  | 't' => some '\t'
  | 'v' => some '\x0b'
  | '\\' => some '\\'
  | _ => none

/-- The character of an escape, and how many characters behind the backslash it takes; up to `digits`
octal digits may be given. -/
def escape (digits : Nat) (cs : List Char) : List Char × Nat :=
  let run := (cs.take digits).takeWhile isOctal
  if !run.isEmpty then ([octal run], run.length)
  else
    match cs with
    | c :: _ =>
      match letterEscape? c with
      | some found => ([found], 1)
      | none => (['\\', c], 1)
    | [] => (['\\'], 0)

/-- The text that `echo` writes for its arguments, and whether an escape cut it short. -/
def echoText (fuel : Nat) (done cs : List Char) : List Char × Bool :=
  match fuel with
  | 0 => (done.reverse, false)
  | fuel + 1 =>
    match cs with
    | [] => (done.reverse, false)
    | '\\' :: 'c' :: _ => (done.reverse, true)
    | '\\' :: '0' :: rest =>
      let run := (rest.take 3).takeWhile isOctal
      echoText fuel (octal run :: done) (rest.drop run.length)
    | '\\' :: rest =>
      let (text, taken) := escape 0 rest
      echoText fuel (text.reverse ++ done) (rest.drop taken)
    | c :: rest => echoText fuel (c :: done) rest

/-- What `echo` writes. -/
def echo (args : List Bytes) : Bytes :=
  let (newline, args) := match args with
    | [0x2d, 0x6e] :: rest => (false, rest)
    | _ => (true, args)
  let text := charsOf (List.intercalate [Byte.space] args)
  let (out, cut) := echoText (text.length + 1) [] text
  bytesOf out ++ if newline && !cut then [Byte.newline] else []

/-! ## Numbers -/

/-- The decimal integer at the start of a text; zero if there is none. -/
def leadingNumber (bytes : Bytes) : Int :=
  match bytes.dropWhile Byte.isBlank with
  | 0x2d :: rest => -(Decimal.toNat (rest.takeWhile Byte.isDigit) : Int)
  | 0x2b :: rest => Decimal.toNat (rest.takeWhile Byte.isDigit)
  | rest => Decimal.toNat (rest.takeWhile Byte.isDigit)

/-- A count written with digits only. -/
def count? (bytes : Bytes) : Option Nat :=
  if !bytes.isEmpty && bytes.all Byte.isDigit then some (Decimal.toNat bytes) else none

/-- A time in seconds, which may have a fraction, as a number of microseconds. -/
def microseconds (bytes : Bytes) : Nat :=
  let whole := bytes.takeWhile Byte.isDigit
  let fraction := match bytes.drop whole.length with
    | 0x2e :: rest => (rest.takeWhile Byte.isDigit).take 6
    | _ => []
  Decimal.toNat (whole ++ fraction ++ List.replicate (6 - fraction.length) 0x30)

/-! ## Formats -/

/-- A conversion of a format. -/
structure Conversion where
  left : Bool
  zero : Bool
  width : Nat
  precision : Option Nat
  kind : Char

/-- Reads a conversion behind its percent sign. -/
def conversion? (cs : List Char) : Option (Conversion × List Char) :=
  let flags := cs.takeWhile fun c => c == '-' || c == '0' || c == '+' || c == ' ' || c == '#'
  let rest := cs.drop flags.length
  let width := rest.takeWhile Char.isDigit
  let rest := rest.drop width.length
  let (precision, rest) := match rest with
    | '.' :: more =>
      let digits := more.takeWhile Char.isDigit
      (some (Decimal.toNat (bytesOf digits)), more.drop digits.length)
    | _ => (none, rest)
  match rest with
  | kind :: rest =>
    some (⟨flags.contains '-', flags.contains '0', Decimal.toNat (bytesOf width), precision, kind⟩,
      rest)
  | [] => none

/-- Fills a converted text up to its width. -/
def Conversion.pad (conv : Conversion) (text : List Char) : List Char :=
  let missing := conv.width - text.length
  if conv.left then text ++ List.replicate missing ' '
  else if conv.zero && conv.kind != 's' then List.replicate missing '0' ++ text
  else List.replicate missing ' ' ++ text

/-- Converts an argument. -/
def Conversion.apply (conv : Conversion) (arg : Bytes) : List Char :=
  let number := leadingNumber arg
  conv.pad (match conv.kind with
    | 's' =>
      let text := charsOf arg
      match conv.precision with
      | some n => text.take n
      | none => text
    | 'b' =>
      let text := charsOf arg
      (echoText (text.length + 1) [] text).1
    | 'c' => (charsOf arg).take 1
    | 'x' => Nat.toDigits 16 number.toNat
    | 'o' => Nat.toDigits 8 number.toNat
    | _ => charsOf (Decimal.ofInt number))

/-- Writes a format once: the output, and the arguments that are left. -/
def formatOnce (fuel : Nat) (done : List Char) (args : List Bytes) (cs : List Char) :
    List Char × List Bytes :=
  match fuel with
  | 0 => (done, args)
  | fuel + 1 =>
    match cs with
    | [] => (done, args)
    | '\\' :: rest =>
      let (text, taken) := escape 3 rest
      formatOnce fuel (text.reverse ++ done) args (rest.drop taken)
    | '%' :: '%' :: rest => formatOnce fuel ('%' :: done) args rest
    | '%' :: rest =>
      match conversion? rest with
      | some (conv, rest) =>
        formatOnce fuel ((conv.apply (args.headD [])).reverse ++ done) args.tail rest
      | none => (done, args)
    | c :: rest => formatOnce fuel (c :: done) args rest

/-- Writes a format again and again until no argument is left. -/
def formatAll (fuel : Nat) (done : List Char) (args : List Bytes) (format : List Char) : List Char :=
  match fuel with
  | 0 => done
  | fuel + 1 =>
    let (out, rest) := formatOnce (format.length + 1) done args format
    if rest.isEmpty || rest.length == args.length then out else formatAll fuel out rest format

/-- What `printf` writes. -/
def printf (args : List Bytes) : Bytes :=
  match args with
  | [] => []
  | [0x2d, 0x2d] :: format :: args | format :: args => bytesOf (formatAll (args.length + 1) [] args (charsOf format)).reverse

/-! ## Character sets -/

/-- The characters of a set in which escapes stand for themselves. -/
def setChars (fuel : Nat) (cs : List Char) : List Char :=
  match fuel with
  | 0 => []
  | fuel + 1 =>
    match cs with
    | [] => []
    | '\\' :: rest =>
      let (text, taken) := escape 3 rest
      text.drop (text.length - 1) ++ setChars fuel (rest.drop taken)
    | c :: rest => c :: setChars fuel rest

/-- A set with its ranges written out. -/
def expandRanges : List Char → List Char
  | a :: '-' :: b :: rest =>
    (List.range (b.toNat + 1 - a.toNat)).map (fun i => Char.ofNat (a.toNat + i)) ++ expandRanges rest
  | c :: rest => c :: expandRanges rest
  | [] => []

/-- The bytes of a set. -/
def byteSet (text : Bytes) : Bytes :=
  bytesOf (expandRanges (setChars (text.length + 1) (charsOf text)))

/-- Replaces each byte of the first set by the one in the same place of the second, whose last byte
stands for all that are missing. -/
def translate (source target input : Bytes) : Bytes :=
  let table := (List.range 256).map fun i =>
    let b := UInt8.ofNat i
    match source.idxOf? b with
    | some place => (target[place]?).getD ((target.getLast?).getD b)
    | none => b
  let table := table.toArray
  input.map fun b => table.getD b.toNat b

end ScriptExec.Shell
