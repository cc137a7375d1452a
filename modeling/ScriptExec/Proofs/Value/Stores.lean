-- SUMMARY: An array holds what was last stored in it, slot by slot and name by name.
import Mathlib
import ScriptExec.Proofs.Named
import ScriptExec.Proofs.Text.Order
import ScriptExec.Value.Array

/-!
# Stores in arrays

Changes of an array come to stores: values that are put in slots or under names. Whatever the changes, and whatever
their order, the array reaches as far as the furthest store, each slot and each name has the value of its last store,
and the slots between are `null` (`array_holds_last_stores`). The argument list has a hole for each slot that is no
scalar, and each name once, in the order of their bytes.
-/

namespace ScriptExec.ScriptArray

/-- What can be done to an array. -/
inductive Change
  | set (i : Nat) (v : Value)
  | push (v : Value)
  | setNamed (key : String) (v : Value)

namespace Change

def apply (a : ScriptArray) : Change → ScriptArray
  | .set i v => a.set i v
  | .push v => a.push v
  | .setNamed key v => a.setNamed key v

/-- Whether a change is about a slot. -/
def isIndexed : Change → Bool
  | .set _ _ | .push _ => true
  | .setNamed _ _ => false

/-- The value that a change stores under a key, if it does. -/
def under? (key : String) : Change → Option Value
  | .setNamed key' v => if key' = key then some v else none
  | _ => none

end Change

/-- The array after some changes, made one after the other. -/
def after (a : ScriptArray) (changes : List Change) : ScriptArray :=
  changes.foldl Change.apply a

/-! ## Stores -/

/-- Values that were stored, each with its slot, the newest first. -/
abbrev Stores := List (Nat × Value)

/-- One past the furthest slot, where the array had so many slots at first. -/
def Stores.reach (length : Nat) : Stores → Nat
  | [] => length
  | (i, _) :: stores => max (reach length stores) (i + 1)

/-- Adds the store that a change comes to. A push goes to the slot after the furthest one. -/
def Stores.note (length : Nat) (stores : Stores) : Change → Stores
  | .set i v => (i, v) :: stores
  | .push v => (stores.reach length, v) :: stores
  | .setNamed _ _ => stores

/-- The stores that changes come to. -/
def Stores.of (length : Nat) (changes : List Change) : Stores :=
  changes.foldl (note length) []

/-- The value of a slot: the one last stored, or the one it had at first; `null` if there is neither. -/
def Stores.valueAt (start : List Value) (stores : Stores) (i : Nat) : Value :=
  ((stores.lookup i).or start[i]?).getD .null

/-- The value last stored under a key. -/
def lastUnder? (changes : List Change) (key : String) : Option Value :=
  changes.reverse.findSome? (Change.under? key)

variable {a b : ScriptArray} {start : List Value} {changes : List Change} {stores : Stores} {i j : Nat} {v : Value}

/-! ## One change -/

theorem push_eq_set (a : ScriptArray) (v : Value) : a.push v = a.set a.maxIndex v := by
  simp [push, set, maxIndex]

theorem maxIndex_set (a : ScriptArray) (i : Nat) (v : Value) : (a.set i v).maxIndex = max a.maxIndex (i + 1) := by
  unfold set maxIndex
  split
  · rename_i hinside
    rw [List.length_set, Nat.max_eq_left hinside]
  · simp only [List.length_append, List.length_replicate, List.length_singleton]
    omega

/-- A store changes one slot; slots that are not there count as `null`. -/
theorem slot_set (a : ScriptArray) (i : Nat) (v : Value) (j : Nat) :
    (a.set i v).slots[j]?.getD .null = if j = i then v else a.slots[j]?.getD .null := by
  unfold set
  dsimp only
  split
  · rename_i hinside
    by_cases hj : j = i
    · simp [hj, hinside]
    · rw [List.getElem?_set_ne (Ne.symm hj), if_neg hj]
  · rename_i hbeyond
    rw [List.append_assoc, List.getElem?_append]
    by_cases hold : j < a.slots.length
    · rw [if_pos hold, if_neg (by omega)]
    · rw [if_neg hold, List.getElem?_append, List.length_replicate, List.getElem?_eq_none (Nat.not_lt.mp hold)]
      by_cases hgap : j < i
      · rw [if_pos (by omega), List.getElem?_replicate, if_pos (by omega), if_neg (by omega)]
        rfl
      · rw [if_neg (by omega)]
        by_cases hj : j = i
        · simp [hj]
        · rw [if_neg hj, List.getElem?_eq_none (by simp; omega)]

/-- An array is what changes come to: it reaches as far, has the values last stored, and its keys are in order. -/
structure Follows (start : List Value) (changes : List Change) (a : ScriptArray) : Prop where
  maxIndex : a.maxIndex = (Stores.of start.length changes).reach start.length
  slot : ∀ i, a.slots[i]?.getD .null = (Stores.of start.length changes).valueAt start i
  named : ∀ key, a.getNamed? key = lastUnder? changes key
  ascending : a.named.Ascending

theorem valueAt_cons (start : List Value) (stores : Stores) (i : Nat) (v : Value) (j : Nat) :
    Stores.valueAt start ((i, v) :: stores) j = if j = i then v else stores.valueAt start j := by
  unfold Stores.valueAt
  by_cases hj : j = i
  · simp [hj]
  · have hkey : (j == i) = false := beq_eq_false_iff_ne.mpr hj
    simp [List.lookup_cons, hkey, hj]

theorem of_append (length : Nat) (changes : List Change) (change : Change) :
    Stores.of length (changes ++ [change]) = (Stores.of length changes).note length change := by
  rw [Stores.of, List.foldl_append]
  rfl

theorem lastUnder?_append (changes : List Change) (change : Change) (key : String) :
    lastUnder? (changes ++ [change]) key = (change.under? key).or (lastUnder? changes key) := by
  rw [lastUnder?, List.reverse_append]
  simp only [List.reverse_singleton, List.singleton_append, List.findSome?_cons]
  cases change.under? key <;> rfl

theorem follows_start (start : List Value) : Follows start [] (ofList start) where
  maxIndex := rfl
  slot _ := rfl
  named _ := rfl
  ascending := List.Pairwise.nil

theorem Follows.set (h : Follows start changes a) (i : Nat) (v : Value) :
    Follows start (changes ++ [.set i v]) (a.set i v) where
  maxIndex := by
    rw [maxIndex_set, h.maxIndex, of_append]
    rfl
  slot j := by
    rw [slot_set, h.slot, of_append]
    exact (valueAt_cons start _ i v j).symm
  named key := by
    rw [lastUnder?_append]
    exact h.named key
  ascending := h.ascending

theorem Follows.setNamed (h : Follows start changes a) (key : String) (v : Value) :
    Follows start (changes ++ [.setNamed key v]) (a.setNamed key v) where
  maxIndex := by
    rw [of_append]
    exact h.maxIndex
  slot i := by
    rw [of_append]
    exact h.slot i
  named key' := by
    rw [lastUnder?_append, getNamed?, ScriptArray.setNamed, Named.find?_insert, Change.under?]
    split
    · rfl
    · exact h.named key'
  ascending := Named.ascending_insert key v h.ascending

theorem Follows.apply (h : Follows start changes a) (change : Change) :
    Follows start (changes ++ [change]) (change.apply a) := by
  cases change with
  | set i v => exact h.set i v
  | push v =>
    -- A push is a store in the slot after the last one, for the array and for its stores.
    have hset := h.set a.maxIndex v
    rw [← push_eq_set] at hset
    have hstores : Stores.of start.length (changes ++ [.push v]) =
        Stores.of start.length (changes ++ [.set a.maxIndex v]) := by
      rw [of_append, of_append, h.maxIndex]
      rfl
    exact ⟨hstores ▸ hset.maxIndex, hstores ▸ hset.slot, fun key => by
      rw [lastUnder?_append]
      exact h.named key, hset.ascending⟩
  | setNamed key v => exact h.setNamed key v

/-! ## All changes -/

theorem follows_after (start : List Value) (changes : List Change) :
    Follows start changes ((ofList start).after changes) := by
  induction changes using List.reverseRecOn with
  | nil => exact follows_start start
  | append_singleton changes change ih =>
    rw [after, List.foldl_append]
    exact ih.apply change

theorem slots_after (h : a.slots = b.slots) (changes : List Change) :
    (a.after changes).slots = (b.after (changes.filter Change.isIndexed)).slots := by
  induction changes generalizing a b with
  | nil => exact h
  | cons change changes ih =>
    cases change with
    | set i v =>
      have hstep : (a.set i v).slots = (b.set i v).slots := by simp only [set, h]
      exact ih hstep
    | push v =>
      have hstep : (a.push v).slots = (b.push v).slots := by simp only [push, h]
      exact ih hstep
    | setNamed key v => exact ih (a := a.setNamed key v) h

theorem named_after (h : a.named = b.named) (changes : List Change) :
    (a.after changes).named = (b.after (changes.filter fun change => !change.isIndexed)).named := by
  induction changes generalizing a b with
  | nil => exact h
  | cons change changes ih =>
    cases change with
    | set i v => exact ih (a := a.set i v) h
    | push v => exact ih (a := a.push v) h
    | setNamed key v =>
      have hstep : (a.setNamed key v).named = (b.setNamed key v).named := by simp only [setNamed, h]
      exact ih hstep

theorem get?_eq (a : ScriptArray) (i : Nat) :
    a.get? i = if i < a.maxIndex then some (a.slots[i]?.getD .null) else none := by
  unfold get? maxIndex
  split
  · rename_i hinside
    simp [hinside]
  · rename_i hbeyond
    exact List.getElem?_eq_none (Nat.not_lt.mp hbeyond)

/-! ## Argument lists -/

theorem toBytes?_eq_none_iff : v.toBytes? = none ↔ v = .null ∨ ∃ slots named, v = .array slots named := by
  cases v <;> simp [Value.toBytes?]

theorem hole_iff (a : ScriptArray) (i : Nat) :
    a.toArgList.slots[i]? = some none ↔
      a.get? i = some .null ∨ ∃ slots named, a.get? i = some (.array slots named) := by
  rw [toArgList, List.getElem?_map, get?]
  cases a.slots[i]? with
  | none => simp
  | some v => simp [toBytes?_eq_none_iff]

/-- An array that is changed in any way reaches one past the furthest slot in which a value was stored. Each of its
slots has the value last stored there, or `null`, and each key the value last stored under it; slots and names have
no part in each other. As arguments of a program its slots are as many, with a hole for each that is `null` or an
array, and its keys come once each, in ascending order of their bytes. -/
theorem array_holds_last_stores (start : List Value) (changes : List Change) :
    let a := (ofList start).after changes
    let stores := Stores.of start.length changes
    a.maxIndex = stores.reach start.length ∧
    (∀ i, a.get? i = if i < a.maxIndex then some (stores.valueAt start i) else none) ∧
    (∀ key, a.getNamed? key = lastUnder? changes key) ∧
    a.slots = ((ofList start).after (changes.filter Change.isIndexed)).slots ∧
    (∀ other, a.named = ((ofList other).after (changes.filter fun change => !change.isIndexed)).named) ∧
    a.toArgList.slotCount = a.maxIndex ∧
    (∀ i, a.toArgList.slots[i]? = some none ↔
      a.get? i = some .null ∨ ∃ slots named, a.get? i = some (.array slots named)) ∧
    (∀ key, a.toArgList.named.count key = if (lastUnder? changes key).isSome then 1 else 0) ∧
    a.toArgList.named.Pairwise fun key key' => utf8 key < utf8 key' := by
  intro a stores
  have hfollows : Follows start changes a := follows_after start changes
  refine ⟨hfollows.maxIndex, ?_, hfollows.named, slots_after rfl changes, ?_, ?_, a.hole_iff, ?_, ?_⟩
  · intro i
    rw [get?_eq, hfollows.slot]
  · intro other
    have hnamed : (ofList start).named = (ofList other).named := rfl
    exact named_after hnamed changes
  · simp [ArgList.slotCount, toArgList, maxIndex]
  · intro key
    rw [← hfollows.named]
    exact hfollows.ascending.count_keys key
  · exact hfollows.ascending.imp utf8_lt_utf8

example :
    let changes : List Change :=
      [.set 0 (.str "ls"), .set 3 (.int 12), .setNamed "verbose" (.int 1), .set 2 (.array [] [])]
    (empty.after changes).toArgList = ⟨[some (utf8 "ls"), none, none, some (utf8 "12")], ["verbose"]⟩ := by
  cbv

end ScriptExec.ScriptArray
