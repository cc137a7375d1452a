-- SUMMARY: Interleavings of two lists: every element once, and each list in its own order.
import Mathlib.Data.List.Basic
import Mathlib.Data.List.Perm.Basic

/-!
# Interleavings

`Interleaving xs ys zs` says that `zs` is made by taking elements from the front of `xs` and of `ys`, in
some order, until both are used up. So every element of either list stands in `zs` exactly once, and
the elements of each list keep their order.
-/

namespace ScriptExec

variable {α : Type}

inductive Interleaving : List α → List α → List α → Prop
  | nil : Interleaving [] [] []
  | left {x : α} {xs ys zs : List α} : Interleaving xs ys zs → Interleaving (x :: xs) ys (x :: zs)
  | right {y : α} {xs ys zs : List α} : Interleaving xs ys zs → Interleaving xs (y :: ys) (y :: zs)

namespace Interleaving

variable {xs ys zs : List α}

theorem symm (h : Interleaving xs ys zs) : Interleaving ys xs zs := by
  induction h with
  | nil => exact .nil
  | left _ ih => exact .right ih
  | right _ ih => exact .left ih

/-- More of the first list can come at the end. -/
theorem append_left (h : Interleaving xs ys zs) (more : List α) :
    Interleaving (xs ++ more) ys (zs ++ more) := by
  induction h with
  | nil =>
    induction more with
    | nil => exact .nil
    | cons x more ih => exact .left ih
  | left _ ih => exact .left ih
  | right _ ih => exact .right ih

/-- More of the second list can come at the end. -/
theorem append_right (h : Interleaving xs ys zs) (more : List α) :
    Interleaving xs (ys ++ more) (zs ++ more) :=
  (h.symm.append_left more).symm

theorem perm (h : Interleaving xs ys zs) : zs.Perm (xs ++ ys) := by
  induction h with
  | nil => exact .nil
  | left _ ih => exact ih.cons _
  | right _ ih => exact (ih.cons _).trans List.perm_middle.symm

theorem length_eq (h : Interleaving xs ys zs) : zs.length = xs.length + ys.length := by
  rw [h.perm.length_eq, List.length_append]

theorem sublist_left (h : Interleaving xs ys zs) : xs.Sublist zs := by
  induction h with
  | nil => exact .slnil
  | left _ ih => exact ih.cons_cons _
  | right _ ih => exact ih.cons _

theorem sublist_right (h : Interleaving xs ys zs) : ys.Sublist zs :=
  h.symm.sublist_left

end Interleaving

end ScriptExec
