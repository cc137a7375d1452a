-- SUMMARY: TOML scalars that are written without quotes.
import ScriptExec.Toml.Value

/-!
# Unquoted TOML scalars

Truth values, integers in four bases, floats, dates and times. All of them are words without blanks
in them, except that a date and a time may be separated by one space. Underscores may stand between
digits. A decimal integer has no leading zero, and only decimal ones have a sign.
-/

namespace ScriptExec.Toml.Scalar

/-- The value of a digit in bases up to sixteen. -/
def digitValue (c : Char) : Nat :=
  if c.isDigit then c.toNat - 48
  else if 'a' ≤ c ∧ c ≤ 'f' then c.toNat - 87
  else if 'A' ≤ c ∧ c ≤ 'F' then c.toNat - 55
  else 16

def isDigitOf (base : Nat) (c : Char) : Bool :=
  digitValue c < base

/-- The digits of a run in which each underscore stands between two digits. -/
def digits? (base : Nat) : List Char → Option (List Char)
  | [] => none
  | [c] => if isDigitOf base c then some [c] else none
  | c :: '_' :: rest => if isDigitOf base c then (digits? base rest).map (c :: ·) else none
  | c :: rest => if isDigitOf base c then (digits? base rest).map (c :: ·) else none

/-- The number that digits denote. -/
def number (base : Nat) (digits : List Char) : Nat :=
  digits.foldl (fun n c => n * base + digitValue c) 0

/-- Decimal digits without a leading zero. -/
def decimal? (word : List Char) : Option (List Char) :=
  match digits? 10 word with
  | some ['0'] => some ['0']
  | some ('0' :: _) => none
  | found => found

def unsigned : List Char → List Char
  | '+' :: rest => rest
  | '-' :: rest => rest
  | word => word

def integer? (word : List Char) : Option Int :=
  match word with
  | '0' :: 'x' :: rest => (digits? 16 rest).map fun ds => number 16 ds
  | '0' :: 'o' :: rest => (digits? 8 rest).map fun ds => number 8 ds
  | '0' :: 'b' :: rest => (digits? 2 rest).map fun ds => number 2 ds
  | '-' :: rest => (decimal? rest).map fun ds => -(number 10 ds : Int)
  | _ => (decimal? (unsigned word)).map fun ds => number 10 ds

/-- The exponent of a float: a sign and digits. -/
def isExponent (word : List Char) : Bool :=
  (digits? 10 (unsigned word)).isSome

/-- What follows the whole part of a float: a fraction, an exponent, or both. -/
def isFloatTail : List Char → Bool
  | '.' :: rest =>
    let fraction := rest.takeWhile fun c => c != 'e' && c != 'E'
    match rest.dropWhile fun c => c != 'e' && c != 'E' with
    | [] => (digits? 10 fraction).isSome
    | _ :: power => (digits? 10 fraction).isSome && isExponent power
  | 'e' :: power | 'E' :: power => isExponent power
  | _ => false

def isFloat (word : List Char) : Bool :=
  let body := unsigned word
  let isWhole (c : Char) : Bool := c.isDigit || c == '_'
  body == ['i', 'n', 'f'] || body == ['n', 'a', 'n'] ||
    ((decimal? (body.takeWhile isWhole)).isSome && isFloatTail (body.dropWhile isWhole))

/-! ## Dates and times -/

/-- The number written by exactly these decimal digits. -/
def fixed? (cs : List Char) : Option Nat :=
  if cs.all Char.isDigit then some (number 10 cs) else none

def isLeapYear (year : Nat) : Bool :=
  year % 4 == 0 && (year % 100 != 0 || year % 400 == 0)

def daysOfMonth (year month : Nat) : Nat :=
  if month == 2 then (if isLeapYear year then 29 else 28)
  else if month == 4 || month == 6 || month == 9 || month == 11 then 30
  else 31

def isDate : List Char → Bool
  | [y₁, y₂, y₃, y₄, '-', m₁, m₂, '-', d₁, d₂] =>
    match fixed? [y₁, y₂, y₃, y₄], fixed? [m₁, m₂], fixed? [d₁, d₂] with
    | some year, some month, some day =>
      1 ≤ month && month ≤ 12 && 1 ≤ day && day ≤ daysOfMonth year month
    | _, _, _ => false
  | _ => false

/-- Hours and minutes. -/
def isClock : List Char → Bool
  | [h₁, h₂, ':', m₁, m₂] =>
    match fixed? [h₁, h₂], fixed? [m₁, m₂] with
    | some hour, some minute => hour ≤ 23 && minute ≤ 59
    | _, _ => false
  | _ => false

/-- The seconds of a time, with a fraction or without. -/
def isSeconds : List Char → Bool
  | s₁ :: s₂ :: rest =>
    match fixed? [s₁, s₂], rest with
    | some second, [] => second ≤ 60
    | some second, '.' :: fraction => second ≤ 60 && !fraction.isEmpty && fraction.all Char.isDigit
    | _, _ => false
  | _ => false

def isTime (word : List Char) : Bool :=
  isClock (word.take 5) &&
    match word.drop 5 with
    | [] => true
    | ':' :: seconds => isSeconds seconds
    | _ => false

/-- A time with the distance from universal time, or without. -/
def isOffsetTime (word : List Char) : Bool :=
  let isSign (c : Char) : Bool := c == 'Z' || c == 'z' || c == '+' || c == '-'
  isTime (word.takeWhile (!isSign ·)) &&
    match word.dropWhile (!isSign ·) with
    | [] => true
    | ['Z'] | ['z'] => true
    | '+' :: offset | '-' :: offset => isClock offset
    | _ => false

def isDateTime (word : List Char) : Bool :=
  isDate word || isTime word ||
    (isDate (word.take 10) &&
      match word.drop 10 with
      | c :: time => (c == 'T' || c == 't' || c == ' ') && isOffsetTime time
      | [] => false)

/-- The value of a word. -/
def ofWord? (word : List Char) : Option Value :=
  if word == "true".toList then some (.boolean true)
  else if word == "false".toList then some (.boolean false)
  else
    match integer? word with
    | some i => some (.integer i)
    | none =>
      if isFloat word then some (.float (String.ofList word))
      else if isDateTime word then some (.dateTime (String.ofList word))
      else none

end ScriptExec.Toml.Scalar
