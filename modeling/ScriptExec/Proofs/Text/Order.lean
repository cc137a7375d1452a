-- SUMMARY: Texts are in the order of their bytes.
import ScriptExec.Bytes

/-!
# The order of UTF-8 forms

Texts are ordered by their characters. Their UTF-8 forms are in the same order byte by byte (`utf8_lt_utf8`): a
greater character has more bytes and a greater first one, or as many bytes and a greater one where they first differ.
-/

namespace ScriptExec

/-- A byte decides, unless it is the same in both. -/
theorem byte_cons_lt {m n : Nat} {s t : Bytes} (hm : m < 256) (hn : n < 256) :
    UInt8.ofNat m :: s < UInt8.ofNat n :: t ↔ m < n ∨ m = n ∧ s < t := by
  rw [List.cons_lt_cons_iff, UInt8.lt_iff_toNat_lt, ← UInt8.toNat_inj, UInt8.toNat_ofNat_of_lt' hm,
    UInt8.toNat_ofNat_of_lt' hn]

/-- The bytes of a character, by their number. -/
inductive Utf8.Form (n : Nat) : Bytes → Prop
  | one (h : n < 0x80) : Form n [UInt8.ofNat n]
  | two (hlow : 0x80 ≤ n) (h : n < 0x800) :
      Form n [UInt8.ofNat (n / 64 % 32 + 0xc0), UInt8.ofNat (n % 64 + 0x80)]
  | three (hlow : 0x800 ≤ n) (h : n < 0x10000) :
      Form n [UInt8.ofNat (n / 4096 % 16 + 0xe0), UInt8.ofNat (n / 64 % 64 + 0x80), UInt8.ofNat (n % 64 + 0x80)]
  | four (hlow : 0x10000 ≤ n) (h : n < 0x110000) :
      Form n [UInt8.ofNat (n / 262144 % 8 + 0xf0), UInt8.ofNat (n / 4096 % 64 + 0x80),
        UInt8.ofNat (n / 64 % 64 + 0x80), UInt8.ofNat (n % 64 + 0x80)]

theorem Utf8.form (c : Char) : Form c.val.toNat (String.utf8EncodeChar c) := by
  have hmax : c.val.toNat < 0x110000 := by
    have hvalid := c.valid
    simp only [UInt32.isValidChar, Nat.isValidChar] at hvalid
    omega
  unfold String.utf8EncodeChar
  dsimp only
  split
  · exact .one (by omega)
  · split
    · exact .two (by omega) (by omega)
    · split
      · exact .three (by omega) (by omega)
      · exact .four (by omega) hmax

/-- Of two characters the own bytes decide, whatever comes after them. -/
theorem Utf8.Form.append_lt {m n : Nat} {x y : Bytes} (hx : Form m x) (hy : Form n y) (hlt : m < n) (s t : Bytes) :
    x ++ s < y ++ t := by
  have hm : m / 64 / 64 = m / 4096 ∧ m / 4096 / 64 = m / 262144 := by omega
  have hn : n / 64 / 64 = n / 4096 ∧ n / 4096 / 64 = n / 262144 := by omega
  cases hx with
  | one | two | three =>
    cases hy <;> simp (disch := omega) only [List.cons_append, List.nil_append, byte_cons_lt] <;> omega
  | four _ hmax =>
    cases hy with
    | one | two | three => omega
    | four _ hmax' =>
      have hfirst : m / 262144 % 8 = m / 262144 ∧ n / 262144 % 8 = n / 262144 := by omega
      simp (disch := omega) only [List.cons_append, List.nil_append, byte_cons_lt]
      rw [hfirst.1, hfirst.2]
      omega

theorem utf8_lt_utf8 {s t : String} (h : s < t) : utf8 s < utf8 t := by
  have hchars : List.Lex (· < ·) s.toList t.toList := h
  unfold utf8
  generalize s.toList = cs at *
  generalize t.toList = ds at *
  induction hchars with
  | @nil d ds =>
    have hform := Utf8.form d
    rw [List.flatMap_cons]
    generalize String.utf8EncodeChar d = x at *
    cases hform <;> exact List.nil_lt_cons _ _
  | cons _ ih => exact List.append_left_lt ih
  | rel hlt => exact (Utf8.form _).append_lt (Utf8.form _) (UInt32.lt_iff_toNat_lt.mp hlt) _ _

end ScriptExec
