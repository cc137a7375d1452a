-- SUMMARY: Entries under text keys, kept in ascending order of the keys.

/-!
# Named entries

A list of entries in ascending order of their keys, one entry a key. Texts are ordered by code
points, which is the order of the bytes of their UTF-8 forms. Storing under a key that is in use
replaces its entry (`Named.find?_insert`).
-/

namespace ScriptExec

/-- Entries in ascending order of their keys. -/
abbrev Named (α : Type) := List (String × α)

namespace Named

variable {α : Type}

/-- Stores a value under a key. -/
def insert (key : String) (value : α) : Named α → Named α
  | [] => [(key, value)]
  | entry :: rest =>
    if key = entry.1 then (key, value) :: rest
    else if key < entry.1 then (key, value) :: entry :: rest
    else entry :: insert key value rest

/-- Removes the entry of a key. -/
def erase (key : String) (entries : Named α) : Named α :=
  entries.filter fun entry => entry.1 != key

/-- The value under a key. -/
def find? (key : String) : Named α → Option α
  | [] => none
  | entry :: rest => if entry.1 = key then some entry.2 else find? key rest

/-- The keys in ascending order. -/
def keys (entries : Named α) : List String :=
  entries.map (·.1)

/-- Entries stored one after the other, so that of two with one key the later stays. -/
def ofList (entries : List (String × α)) : Named α :=
  entries.foldl (fun done entry => insert entry.1 entry.2 done) []

theorem find?_insert (key key' : String) (value : α) (entries : Named α) :
    find? key' (insert key value entries) =
      if key = key' then some value else find? key' entries := by
  induction entries with
  | nil => simp [insert, find?]
  | cons entry rest ih =>
    unfold insert
    split
    · rename_i h
      subst h
      simp only [find?]
      split <;> simp_all
    · split
      · simp [find?]
      · simp only [find?, ih]
        split <;> simp_all

end Named

end ScriptExec
