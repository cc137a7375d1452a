-- SUMMARY: The bytes of a text that stand for ASCII characters are those of its ASCII characters.
import ScriptExec.Bytes

/-!
# ASCII in texts

In the UTF-8 form of a text, a byte below `0x80` stands for a character of its own. So a text has a slash
among its characters if and only if it has one among its bytes.
-/

namespace ScriptExec

theorem mem_utf8EncodeChar {b : UInt8} {c : Char} (hb : b.toNat < 0x80) :
    b ∈ String.utf8EncodeChar c ↔ c.val.toNat = b.toNat := by
  have hlarge : ∀ n, 0x80 ≤ n → n < 0x100 → b ≠ UInt8.ofNat n := by
    rintro n hle hlt rfl
    rw [UInt8.toNat_ofNat'] at hb
    omega
  by_cases hascii : c.val.toNat ≤ 0x7f
  · simp only [String.utf8EncodeChar, if_pos hascii, List.mem_singleton]
    constructor
    · rintro rfl
      rw [UInt8.toNat_ofNat']
      omega
    · intro hc
      rw [hc, UInt8.ofNat_toNat]
  · have hne : c.val.toNat ≠ b.toNat := by omega
    refine iff_of_false ?_ hne
    unfold String.utf8EncodeChar
    dsimp only
    rw [if_neg hascii]
    split
    · simp only [List.mem_cons, List.not_mem_nil, or_false]
      rintro (h | h) <;> exact hlarge _ (by omega) (by omega) h
    · split
      · simp only [List.mem_cons, List.not_mem_nil, or_false]
        rintro (h | h | h) <;> exact hlarge _ (by omega) (by omega) h
      · simp only [List.mem_cons, List.not_mem_nil, or_false]
        rintro (h | h | h | h) <;> exact hlarge _ (by omega) (by omega) h

theorem slash_mem_utf8 (text : String) : Byte.slash ∈ utf8 text ↔ '/' ∈ text.toList := by
  rw [utf8, List.mem_flatMap]
  constructor
  · rintro ⟨c, hc, hslash⟩
    have hval := (mem_utf8EncodeChar (by decide)).mp hslash
    rwa [show c = '/' from Char.ext (UInt32.toNat_inj.mp hval)] at hc
  · intro hslash
    exact ⟨'/', hslash, (mem_utf8EncodeChar (by decide)).mpr rfl⟩

end ScriptExec
