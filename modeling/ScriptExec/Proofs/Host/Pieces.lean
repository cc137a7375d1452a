-- SUMMARY: Writing data piece by piece leaves what writing all of it at once does.
import ScriptExec.Proofs.Host.Contents
import ScriptExec.Proofs.Strokes
import ScriptExec.Proofs.Writing.Answers

/-!
# Pieces

A write that takes a piece of what it is offered puts that piece where the file's position is (`System.put`).
Two pieces that are put one after the other come to lie next to each other, as if they had been one
(`System.put_put`); so the writes of a loop leave all that was taken, in order (`System.afterWrites_eq`).
-/

namespace ScriptExec

namespace Stroke

variable {content front back : Bytes} {position : Nat}

/-- A stroke that starts where another one ends goes on with it. -/
theorem splice_splice (hfront : front ≠ []) :
    Host.System.splice (Host.System.splice content position front) (position + front.length) back =
      Host.System.splice content position (front ++ back) := by
  have hlength : 0 < front.length := List.length_pos_iff.mpr hfront
  refine List.ext_getElem? fun i => ?_
  rw [getElem?_splice, getElem?_splice, getElem?_splice, List.length_append]
  by_cases hbefore : i < position
  · have hinside : i < (Host.System.splice content position front).length := by
      simp only [Host.System.splice, List.length_append, List.length_take, List.length_replicate,
        List.length_drop]
      omega
    rw [if_pos (by omega), if_pos hinside, if_pos hbefore, if_pos hbefore]
  · by_cases hwithin : i < position + front.length
    · have hinside : i < (Host.System.splice content position front).length := by
        simp only [Host.System.splice, List.length_append, List.length_take, List.length_replicate,
          List.length_drop]
        omega
      rw [if_pos hwithin, if_pos hinside, if_neg hbefore, if_pos hwithin, if_neg hbefore, if_pos (by omega),
        List.getElem?_append_left (by omega)]
    · rw [if_neg hwithin, if_neg hbefore, if_neg hwithin, if_neg hbefore]
      by_cases hlater : i < position + front.length + back.length
      · rw [if_pos hlater, if_pos (by omega), List.getElem?_append_right (by omega)]
        congr 1
        omega
      · rw [if_neg hlater, if_neg (by omega)]

end Stroke

namespace Host

namespace FileTree

theorem setContent_setContent (tree : FileTree) (id : NodeId) (content content' : Content) :
    (tree.setContent id content).setContent id content' = tree.setContent id content' := by
  simp only [setContent, List.modify_modify_eq, Function.comp_def]

end FileTree

namespace System

variable {sys : System} {d : Nat} {file : OpenFile} {bytes piece : Bytes} {mode : Nat}

theorem insertDescriptor_insertDescriptor (d : Nat) (file file' : OpenFile) (files : List (Nat × OpenFile)) :
    insertDescriptor d file' (insertDescriptor d file files) = insertDescriptor d file' files := by
  induction files with
  | nil => simp [insertDescriptor]
  | cons first rest ih =>
    simp only [insertDescriptor]
    by_cases hless : d < first.1
    · simp [hless, insertDescriptor]
    · by_cases hsame : d = first.1
      · simp [hsame, insertDescriptor]
      · simp [hless, hsame, insertDescriptor, ih]

theorem setFile_setFile (sys : System) (d : Nat) (file file' : OpenFile) :
    (sys.setFile d file).setFile d file' = sys.setFile d file' := by
  simp only [setFile, insertDescriptor_insertDescriptor]

/-- What data does to a file that is not a regular one: its position moves. -/
theorem writeTo_of_not_regular (hnode : sys.tree.bytes? file.node = none) (data : Bytes) :
    sys.writeTo d file data = sys.setFile d { file with offset := file.offset + data.length } := by
  have hother : ∀ bytes, (sys.tree.node? file.node).map Node.content ≠ some (.regular bytes) := by
    intro bytes hregular
    simp [FileTree.bytes?, hregular] at hnode
  unfold writeTo writeNode
  split
  rename_i last tree hwrite
  split at hwrite
  · rename_i bytes hregular
    exact absurd hregular (hother bytes)
  · cases hwrite
    rfl

/-- Data that is written where the data before it ended goes on with it. -/
theorem writeTo_writeTo {front back : Bytes} (hfront : front ≠ []) (last : OpenFile)
    (hlast : (sys.writeTo d file front).file? d = some last) :
    (sys.writeTo d file front).writeTo d last back = sys.writeTo d file (front ++ back) := by
  cases hbytes : sys.tree.bytes? file.node with
  | none =>
    rw [writeTo_of_not_regular hbytes] at hlast ⊢
    rw [file?_setFile, if_pos rfl] at hlast
    cases hlast
    rw [writeTo_of_not_regular hbytes, writeTo_of_not_regular (by exact hbytes), setFile_setFile,
      List.length_append, Nat.add_assoc]
  | some bytes =>
    obtain ⟨mode, hnode⟩ := FileTree.exists_regular hbytes
    rw [writeTo_eq hnode] at hlast ⊢
    rw [file?_setFile, if_pos rfl] at hlast
    cases hlast
    have hnode' := FileTree.node?_setContent_self hnode
      (splice bytes (if file.append then bytes.length else file.offset) front)
    rw [writeTo_eq hnode]
    dsimp only
    rw [writeTo_eq (show _ = some (Node.mk mode _) from hnode')]
    -- a file that is appended to is written where it ends now, which is where the first piece ends
    have hnext : (if file.append then
          (splice bytes (if file.append then bytes.length else file.offset) front).length
        else (if file.append then bytes.length else file.offset) + front.length) =
        (if file.append then bytes.length else file.offset) + front.length := by
      split
      · rw [Stroke.splice_end, List.length_append]
      · rfl
    dsimp only
    rw [hnext, Stroke.splice_splice hfront, List.length_append, Nat.add_assoc]
    simp only [setFile, insertDescriptor_insertDescriptor, FileTree.setContent_setContent]

/-- The system after a write to an open file has taken a piece. -/
def put (sys : System) (d : Nat) (piece : Bytes) : System :=
  match sys.file? d with
  | some file => if piece.isEmpty then sys else sys.writeTo d file piece
  | none => sys

@[simp]
theorem put_nil (sys : System) (d : Nat) : sys.put d [] = sys := by
  unfold put
  split <;> rfl

theorem put_of_file (hfile : sys.file? d = some file) (hpiece : piece ≠ []) :
    sys.put d piece = sys.writeTo d file piece := by
  unfold put
  rw [hfile]
  exact if_neg fun hempty => hpiece (List.isEmpty_iff.mp hempty)

/-- The content of a regular file after a write has taken a piece. -/
theorem bytes?_put (hfile : sys.file? d = some file) (hbytes : sys.tree.bytes? file.node = some bytes)
    (hpiece : piece ≠ []) :
    (sys.put d piece).tree.bytes? file.node =
      some (splice bytes (if file.append then bytes.length else file.offset) piece) := by
  obtain ⟨mode, hnode⟩ := FileTree.exists_regular hbytes
  rw [put_of_file hfile hpiece, writeTo_eq hnode]
  show FileTree.bytes? (FileTree.setContent _ _ _) _ = _
  rw [FileTree.bytes?, FileTree.node?_setContent_self hnode]
  rfl

theorem file?_writeTo (sys : System) (d : Nat) (file : OpenFile) (data : Bytes) :
    ∃ last, (sys.writeTo d file data).file? d = some last :=
  ⟨{ file with offset := (writeNode sys.tree file.node file.offset file.append data).1 },
    file?_setFile.trans (if_pos rfl)⟩

/-- Two pieces lie next to each other. -/
theorem put_put (sys : System) (d : Nat) (front back : Bytes) :
    (sys.put d front).put d back = sys.put d (front ++ back) := by
  by_cases hfront : front = []
  · subst hfront
    rw [put_nil, List.nil_append]
  · by_cases hback : back = []
    · subst hback
      rw [put_nil, List.append_nil]
    · cases hfile : sys.file? d with
      | none =>
        have hnothing : ∀ piece, sys.put d piece = sys := by
          intro piece
          unfold put
          rw [hfile]
        rw [hnothing, hnothing, hnothing]
      | some file =>
        have hboth : front ++ back ≠ [] := fun h => hfront (List.append_eq_nil_iff.mp h).1
        obtain ⟨last, hlast⟩ := file?_writeTo sys d file front
        rw [put_of_file hfile hfront, put_of_file hfile hboth, put_of_file hlast hback,
          writeTo_writeTo hfront last hlast]

/-- The system after the first writes of some data, each of which is offered all that is left and puts what it
takes into the file. -/
def afterWrites (sys : System) (d : Nat) (answers : Nat → WriteAnswer) (data : Bytes) : Nat → System
  | 0 => sys
  | k + 1 =>
    let offered := data.drop (WriteAnswer.takenBy answers data.length k)
    (sys.afterWrites d answers data k).put d (offered.take ((answers k).taken offered.length))

/-- The writes leave all that they have taken, in order. -/
theorem afterWrites_eq (sys : System) (d : Nat) (answers : Nat → WriteAnswer) (data : Bytes) (k : Nat) :
    sys.afterWrites d answers data k = sys.put d (data.take (WriteAnswer.takenBy answers data.length k)) := by
  induction k with
  | zero => exact (put_nil sys d).symm
  | succ k ih =>
    simp only [afterWrites, ih, put_put, WriteAnswer.takenBy, List.length_drop, List.take_add]

end System

end Host

end ScriptExec
