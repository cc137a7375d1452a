-- SUMMARY: TOML documents as values, and the rules by which keys and headers add to a table.

/-!
# TOML values

A document is a table. Statements add to it one after the other, and each table remembers how it came
into being, because that decides which later statement may still add to it: a table written in braces
is closed, a header opens a table once, and a dotted key adds only to tables that no header has opened.
-/

namespace ScriptExec.Toml

/-- How a table came into being. -/
inductive Origin
  /-- Written in braces. -/
  | inline
  /-- Opened by a header. -/
  | header
  /-- On the way of a header to a table below it. -/
  | implied
  /-- On the way of a dotted key. -/
  | dotted
  deriving DecidableEq, Repr

inductive Value
  | text (s : String)
  | integer (i : Int)
  /-- A number with a fraction or an exponent, or a special one, as it is written. -/
  | float (written : String)
  | boolean (b : Bool)
  /-- A date, a time or both, as written. -/
  | dateTime (written : String)
  | array (items : List Value)
  | table (origin : Origin) (entries : List (String × Value))
  /-- The tables opened by double-bracket headers, newest last. -/
  | tables (items : List (List (String × Value)))
  deriving Repr

/-- The entries of a table, in the order they were added. -/
abbrev Table := List (String × Value)

namespace Table

def find? (key : String) (table : Table) : Option Value :=
  (List.find? (fun entry => entry.1 == key) table).map (·.2)

/-- Puts a value in the place of a key's old one, or at the end. -/
def put (key : String) (value : Value) : Table → Table
  | [] => [(key, value)]
  | entry :: rest =>
    if entry.1 == key then (key, value) :: rest else entry :: put key value rest

/-- Applies a change to the last of several tables. -/
def changeLast (change : Table → Option Table) : List Table → Option (List Table)
  | [] => none
  | [table] => (change table).map ([·])
  | table :: rest => (changeLast change rest).map (table :: ·)

/-- Applies a change to the table that a header's keys lead to. -/
def within (change : Table → Option Table) : List String → Table → Option Table
  | [], table => change table
  | key :: path, table =>
    match table.find? key with
    | none => (within change path []).map fun inner => table.put key (.table .implied inner)
    | some (.table .inline _) => none
    | some (.table origin inner) =>
      (within change path inner).map fun inner => table.put key (.table origin inner)
    | some (.tables items) =>
      (changeLast (within change path) items).map fun items => table.put key (.tables items)
    | some _ => none

/-- Adds a value under a dotted key, which must be new. -/
def assign (value : Value) : List String → Table → Option Table
  | [], _ => none
  | [key], table => if (table.find? key).isSome then none else some (table.put key value)
  | key :: path, table =>
    match table.find? key with
    | none => (assign value path []).map fun inner => table.put key (.table .dotted inner)
    | some (.table .dotted inner) =>
      (assign value path inner).map fun inner => table.put key (.table .dotted inner)
    | some (.table .implied inner) =>
      (assign value path inner).map fun inner => table.put key (.table .implied inner)
    | some _ => none

/-- Opens the table of a header, which no header may have opened before. -/
def openTable (key : String) (table : Table) : Option Table :=
  match table.find? key with
  | none => some (table.put key (.table .header []))
  | some (.table .implied inner) => some (table.put key (.table .header inner))
  | some _ => none

/-- Opens a further table of a double-bracket header. -/
def openTables (key : String) (table : Table) : Option Table :=
  match table.find? key with
  | none => some (table.put key (.tables [[]]))
  | some (.tables items) => some (table.put key (.tables (items ++ [[]])))
  | some _ => none

end Table

end ScriptExec.Toml
