-- SUMMARY: The UTF-8 form of a text is read back as that text.
import Mathlib.Tactic.IntervalCases
import ScriptExec.Text.Utf8

/-!
# Reading UTF-8 back

The bytes of a character are one piece, which reads as that character whatever comes after it
(`piece_utf8EncodeChar`). So nothing of a text is lost in its UTF-8 form, and reading that form puts no
replacement character in (`decodeLossy_utf8`).
-/

namespace ScriptExec.Utf8

/-! ## First bytes -/

theorem Lead.of_one {n : Nat} (h : n ≤ 0x7f) : Lead.of (UInt8.ofNat n) = some ⟨0, 0x80, 0xbf, n⟩ := by
  have hn : (UInt8.ofNat n).toNat = n := UInt8.toNat_ofNat_of_lt' (Nat.lt_of_le_of_lt h (by decide))
  rw [Lead.of, if_pos (UInt8.le_iff_toNat_le.mpr (by rw [hn]; exact h)), hn]

theorem Lead.of_two {k : Nat} (hlow : 2 ≤ k) (hhigh : k < 32) :
    Lead.of (UInt8.ofNat (k + 192)) = some ⟨1, 0x80, 0xbf, k⟩ := by
  interval_cases k <;> rfl

theorem Lead.of_three {k : Nat} (h : k < 16) :
    Lead.of (UInt8.ofNat (k + 224)) =
      some ⟨2, if k = 0 then 0xa0 else 0x80, if k = 13 then 0x9f else 0xbf, k⟩ := by
  interval_cases k <;> rfl

theorem Lead.of_four {k : Nat} (h : k ≤ 4) :
    Lead.of (UInt8.ofNat (k + 240)) =
      some ⟨3, if k = 0 then 0x90 else 0x80, if k = 4 then 0x8f else 0xbf, k⟩ := by
  interval_cases k <;> rfl

/-! ## Bytes that follow -/

/-- A byte in its range adds its six bits. -/
theorem continuation_tail {owed bits k : Nat} {low high : UInt8} {rest : Bytes} (hk : k < 64)
    (hlow : low.toNat ≤ k + 128) (hhigh : k + 128 ≤ high.toNat) :
    continuation (owed + 1) low high bits (UInt8.ofNat (k + 128) :: rest) =
      continuation owed 0x80 0xbf (bits * 64 + k) rest := by
  have hbyte : (UInt8.ofNat (k + 128)).toNat = k + 128 := UInt8.toNat_ofNat_of_lt' (Nat.add_lt_add_right hk 128 |>.trans (by decide))
  have hrange : low ≤ UInt8.ofNat (k + 128) ∧ UInt8.ofNat (k + 128) ≤ high := by
    rw [UInt8.le_iff_toNat_le, UInt8.le_iff_toNat_le, hbyte]
    exact ⟨hlow, hhigh⟩
  rw [continuation, if_pos hrange, hbyte, Nat.add_sub_cancel]

/-- A first byte and what follows it make up a character. -/
theorem piece_of_lead {b : UInt8} {lead : Lead} {more after : Bytes} {code : Nat}
    (hlead : Lead.of b = some lead)
    (hmore : continuation lead.owed lead.low lead.high lead.bits more = (some code, after)) :
    piece b more = (some (Char.ofNat code), after) := by
  rw [piece, hlead]
  dsimp only
  rw [hmore]

section

variable {k s t u : Nat} {rest : Bytes}

theorem continuation_middle {owed bits : Nat} (ht : t < 64) :
    continuation (owed + 1) 0x80 0xbf bits (UInt8.ofNat (t + 128) :: rest) =
      continuation owed 0x80 0xbf (bits * 64 + t) rest := by
  apply continuation_tail ht
  · exact Nat.le_add_left 128 t
  · exact Nat.add_le_add_right (Nat.le_of_lt_succ ht) 128

theorem continuation_last (ht : t < 64) (bits : Nat) :
    continuation 1 0x80 0xbf bits (UInt8.ofNat (t + 128) :: rest) = (some (bits * 64 + t), rest) :=
  continuation_middle ht

/-- A second byte whose range is narrower after some first bytes. -/
theorem continuation_second {p q : Prop} [Decidable p] [Decidable q] {low high : UInt8} {owed bits : Nat}
    (hs : s < 64) (hlow : p → low.toNat ≤ s + 128) (hhigh : q → s + 128 ≤ high.toNat) :
    continuation (owed + 1) (if p then low else 0x80) (if q then high else 0xbf) bits
        (UInt8.ofNat (s + 128) :: rest) = continuation owed 0x80 0xbf (bits * 64 + s) rest := by
  apply continuation_tail hs
  · split
    · rename_i hp
      exact hlow hp
    · exact Nat.le_add_left 128 s
  · split
    · rename_i hq
      exact hhigh hq
    · exact Nat.add_le_add_right (Nat.le_of_lt_succ hs) 128

theorem piece_one (h : k ≤ 0x7f) : piece (UInt8.ofNat k) rest = (some (Char.ofNat k), rest) :=
  piece_of_lead (Lead.of_one h) rfl

theorem piece_two (hlow : 2 ≤ k) (hhigh : k < 32) (ht : t < 64) :
    piece (UInt8.ofNat (k + 192)) (UInt8.ofNat (t + 128) :: rest) =
      (some (Char.ofNat (k * 64 + t)), rest) :=
  piece_of_lead (Lead.of_two hlow hhigh) (continuation_last ht k)

theorem piece_three (hk : k < 16) (hs : s < 64) (ht : t < 64) (hlow : k = 0 → 32 ≤ s)
    (hhigh : k = 13 → s < 32) :
    piece (UInt8.ofNat (k + 224)) (UInt8.ofNat (s + 128) :: UInt8.ofNat (t + 128) :: rest) =
      (some (Char.ofNat ((k * 64 + s) * 64 + t)), rest) := by
  refine piece_of_lead (Lead.of_three hk) ((continuation_second hs ?_ ?_).trans (continuation_last ht _))
  · intro hzero
    exact Nat.add_le_add_right (hlow hzero) 128
  · intro hsurrogate
    exact Nat.add_le_add_right (Nat.le_of_lt_succ (hhigh hsurrogate)) 128

theorem piece_four (hk : k ≤ 4) (hs : s < 64) (ht : t < 64) (hu : u < 64) (hlow : k = 0 → 16 ≤ s)
    (hhigh : k = 4 → s < 16) :
    piece (UInt8.ofNat (k + 240))
        (UInt8.ofNat (s + 128) :: UInt8.ofNat (t + 128) :: UInt8.ofNat (u + 128) :: rest) =
      (some (Char.ofNat (((k * 64 + s) * 64 + t) * 64 + u)), rest) := by
  have htail (bits : Nat) : continuation 2 0x80 0xbf bits
      (UInt8.ofNat (t + 128) :: UInt8.ofNat (u + 128) :: rest) =
        (some ((bits * 64 + t) * 64 + u), rest) :=
    (continuation_middle ht).trans (continuation_last hu _)
  refine piece_of_lead (Lead.of_four hk) ((continuation_second hs ?_ ?_).trans (htail _))
  · intro hzero
    exact Nat.add_le_add_right (hlow hzero) 128
  · intro hlast
    exact Nat.add_le_add_right (Nat.le_of_lt_succ (hhigh hlast)) 128

end

/-- The bytes of a character are read as that character. -/
theorem piece_utf8EncodeChar (c : Char) (rest : Bytes) :
    ∃ b more, String.utf8EncodeChar c = b :: more ∧ piece b (more ++ rest) = (some c, rest) := by
  have hvalid : c.val.toNat < 0xd800 ∨ 0xdfff < c.val.toNat ∧ c.val.toNat < 0x110000 := c.valid
  have hc : Char.ofNat c.val.toNat = c := Char.ofNat_toNat c
  unfold String.utf8EncodeChar
  generalize c.val.toNat = v at hvalid hc
  dsimp only
  split
  · rename_i hone
    refine ⟨_, _, rfl, ?_⟩
    rw [List.nil_append, piece_one hone, hc]
  split
  · rename_i hone htwo
    refine ⟨_, _, rfl, ?_⟩
    refine (piece_two (by omega) (by omega) (by omega)).trans ?_
    rw [show v / 64 % 32 * 64 + v % 64 = v by omega, hc]
    rfl
  split
  · rename_i htwo hthree
    refine ⟨_, _, rfl, ?_⟩
    refine (piece_three (by omega) (by omega) (by omega) (by omega) (by omega)).trans ?_
    rw [show (v / 4096 % 16 * 64 + v / 64 % 64) * 64 + v % 64 = v by omega, hc]
    rfl
  · rename_i hthree
    refine ⟨_, _, rfl, ?_⟩
    refine (piece_four (by omega) (by omega) (by omega) (by omega) (by omega) (by omega)).trans ?_
    rw [show ((v / 262144 % 8 * 64 + v / 4096 % 64) * 64 + v / 64 % 64) * 64 + v % 64 = v by omega, hc]
    rfl

/-! ## Texts -/

theorem piecesOnto_utf8 (done : List (Option Char)) (chars : List Char) :
    piecesOnto done (chars.flatMap String.utf8EncodeChar) = done.reverse ++ chars.map some := by
  induction chars generalizing done with
  | nil => simp [piecesOnto]
  | cons c chars ih =>
    obtain ⟨b, more, hbytes, hpiece⟩ :=
      piece_utf8EncodeChar c (chars.flatMap String.utf8EncodeChar)
    rw [List.flatMap_cons, hbytes, List.cons_append, piecesOnto, hpiece, ih]
    simp

/-- The UTF-8 form of a text reads as that text. -/
theorem decodeLossy_utf8 (text : String) : decodeLossy (utf8 text) = text := by
  rw [decodeLossy, pieces, utf8, piecesOnto_utf8]
  simp

end ScriptExec.Utf8
