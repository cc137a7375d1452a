-- SUMMARY: The content that writes leave, byte by byte: each byte is that of the last write that covers it.
import ScriptExec.Host.System

/-!
# Strokes

A stroke puts data into a content at a position. What strokes leave is told byte by byte (`drawn`): a byte is that
of the last stroke that covers it, else the one that was there before, and zero in a gap. Writing into a content
adds a stroke to those that made it (`drawn_cons`).
-/

namespace ScriptExec

/-- Data that is put into a content at a position. -/
structure Stroke where
  position : Nat
  data : Bytes
  deriving DecidableEq, Repr

namespace Stroke

/-- Whether a stroke puts a byte at a position. -/
def covers (stroke : Stroke) (i : Nat) : Bool :=
  decide (stroke.position ≤ i) && decide (i < stroke.position + stroke.data.length)

/-- How far strokes reach, the newest first. -/
def reach (base : Bytes) : List Stroke → Nat
  | [] => base.length
  | stroke :: strokes => max (reach base strokes) (stroke.position + stroke.data.length)

/-- The byte that strokes leave at a position, the newest first. -/
def byteAt (base : Bytes) (strokes : List Stroke) (i : Nat) : UInt8 :=
  match strokes with
  | [] => base.getD i 0
  | stroke :: strokes =>
    if stroke.covers i then stroke.data.getD (i - stroke.position) 0 else byteAt base strokes i

/-- The content that strokes leave, the newest first. -/
def drawn (base : Bytes) (strokes : List Stroke) : Bytes :=
  (List.range (reach base strokes)).map (byteAt base strokes)

variable {base data content : Bytes} {strokes : List Stroke} {position i : Nat}

@[simp]
theorem length_drawn : (drawn base strokes).length = reach base strokes := by
  simp [drawn]

theorem getElem?_drawn : (drawn base strokes)[i]? =
    if i < reach base strokes then some (byteAt base strokes i) else none := by
  unfold drawn
  rw [List.getElem?_map]
  split
  · rename_i hi
    rw [List.getElem?_range hi]
    rfl
  · rename_i hi
    rw [List.getElem?_eq_none (by simpa using hi)]
    rfl

/-- Where nothing reaches there are zeros. -/
theorem byteAt_of_le (h : reach base strokes ≤ i) : byteAt base strokes i = 0 := by
  induction strokes with
  | nil =>
    show base.getD i 0 = 0
    rw [List.getD_eq_getElem?_getD, List.getElem?_eq_none h]
    rfl
  | cons stroke strokes ih =>
    obtain ⟨hrest, hend⟩ := Nat.max_le.mp h
    have hnot : ¬stroke.covers i = true := by
      simp only [covers, Bool.and_eq_true, decide_eq_true_eq]
      omega
    exact (if_neg hnot).trans (ih hrest)

theorem drawn_nil : drawn base [] = base := by
  refine List.ext_getElem? fun i => ?_
  rw [getElem?_drawn]
  show (if i < base.length then some (base.getD i 0) else none) = base[i]?
  split
  · rename_i hi
    rw [List.getD_eq_getElem?_getD, List.getElem?_eq_getElem hi]
    rfl
  · rename_i hi
    exact (List.getElem?_eq_none (Nat.le_of_not_lt hi)).symm

/-- Data is in its place, a gap before it is filled with zeros, and the rest is as it was. -/
theorem getElem?_splice : (Host.System.splice content position data)[i]? =
    if i < position then (if i < content.length then content[i]? else some 0)
    else if i < position + data.length then data[i - position]? else content[i]? := by
  have hfront : (content.take position ++ List.replicate (position - content.length) 0).length = position := by
    simp only [List.length_append, List.length_take, List.length_replicate]
    omega
  unfold Host.System.splice
  rw [List.getElem?_append, List.length_append, hfront]
  by_cases hbefore : i < position
  · rw [if_pos (by omega), List.getElem?_append_left (by omega), if_pos hbefore, List.getElem?_append]
    simp only [List.length_take]
    by_cases hthere : i < content.length
    · rw [if_pos (by omega), if_pos hthere, List.getElem?_take_of_lt hbefore]
    · rw [if_neg (by omega), if_neg hthere, List.getElem?_replicate, if_pos (by omega)]
  · rw [if_neg hbefore]
    by_cases hwithin : i < position + data.length
    · rw [if_pos hwithin, if_pos hwithin, List.getElem?_append_right (by omega), hfront]
    · rw [if_neg hwithin, if_neg hwithin, List.getElem?_drop]
      congr 1
      omega

theorem splice_end : Host.System.splice content content.length data = content ++ data := by
  simp [Host.System.splice]

/-- Writing into a content adds a stroke to those that left it. -/
theorem drawn_cons (hdata : data ≠ []) :
    drawn base (⟨position, data⟩ :: strokes) = Host.System.splice (drawn base strokes) position data := by
  have hlength : 0 < data.length := List.length_pos_iff.mpr hdata
  refine List.ext_getElem? fun i => ?_
  rw [getElem?_drawn, getElem?_splice, length_drawn, getElem?_drawn]
  by_cases hcovers : (⟨position, data⟩ : Stroke).covers i = true
  · have hbyte : byteAt base (⟨position, data⟩ :: strokes) i = data.getD (i - position) 0 := if_pos hcovers
    obtain ⟨hfrom, hto⟩ : position ≤ i ∧ i < position + data.length := by simpa [covers] using hcovers
    have hreach : i < reach base (⟨position, data⟩ :: strokes) := Nat.lt_of_lt_of_le hto (Nat.le_max_right _ _)
    have hinside : i - position < data.length := by omega
    rw [if_pos hreach, if_neg (Nat.not_lt.mpr hfrom), if_pos hto, hbyte, List.getD_eq_getElem?_getD,
      List.getElem?_eq_getElem hinside]
    rfl
  · have hbyte : byteAt base (⟨position, data⟩ :: strokes) i = byteAt base strokes i := if_neg hcovers
    have hout : ¬(position ≤ i ∧ i < position + data.length) := by simpa [covers] using hcovers
    have hreach : i < reach base (⟨position, data⟩ :: strokes) ↔
        i < reach base strokes ∨ i < position + data.length := by
      show i < max (reach base strokes) (position + data.length) ↔ _
      omega
    rw [hbyte]
    by_cases hold : i < reach base strokes
    · rw [if_pos (hreach.mpr (.inl hold)), if_pos hold]
      split
      · rfl
      · rw [if_neg (by omega)]
    · -- beyond the old end only the gap is left, where no stroke has left a byte
      have hgap : byteAt base strokes i = 0 := byteAt_of_le (Nat.le_of_not_lt hold)
      rw [if_neg hold, hgap]
      by_cases hbefore : i < position
      · rw [if_pos (hreach.mpr (.inr (by omega))), if_pos hbefore]
      · rw [if_neg (by omega), if_neg hbefore, if_neg (by omega), if_neg hold]

end Stroke

end ScriptExec
