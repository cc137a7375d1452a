-- SUMMARY: The text and the integer of a scalar can be told from its bytes alone.
import Mathlib.Data.List.TakeWhile
import ScriptExec.Proofs.Text.Utf8
import ScriptExec.Value.Array

/-!
# Forms of scalars

Decimal text is read back as the integer that it stands for, over the whole range of 64 bits
(`leadingInt_decimal`), and UTF-8 as the text that it stands for. So the text and the integer of a value
depend on nothing but its bytes (`toText?_eq`, `toInt?_eq`): an integer, its decimal text, and the bytes of
that cannot be told apart by either.
-/

namespace ScriptExec

namespace Decimal

theorem digit_toNat {n : Nat} (h : n < 10) : (digit n).toNat = 0x30 + n :=
  UInt8.toNat_ofNat_of_lt' ((Nat.add_lt_add_left h 0x30).trans (by decide))

theorem isDigit_digit {n : Nat} (h : n < 10) : Byte.isDigit (digit n) = true := by
  simp only [Byte.isDigit, Bool.and_eq_true, decide_eq_true_eq, UInt8.le_iff_toNat_le, digit_toNat h]
  exact ⟨Nat.le_add_right 0x30 n, Nat.add_le_add_left (Nat.le_of_lt_succ h) 0x30⟩

theorem digitValue_digit {n : Nat} (h : n < 10) : Byte.digitValue (digit n) = n := by
  rw [Byte.digitValue, digit_toNat h, Nat.add_sub_cancel_left]

theorem isDigit_of_mem_ofNat {n : Nat} {b : UInt8} (h : b ∈ ofNat n) : Byte.isDigit b = true := by
  fun_induction ofNat n with
  | case1 n hsmall =>
    rw [List.mem_singleton.mp h]
    exact isDigit_digit hsmall
  | case2 n hlarge ih =>
    rcases List.mem_append.mp h with h | h
    · exact ih h
    · rw [List.mem_singleton.mp h]
      exact isDigit_digit (Nat.mod_lt n (by decide))

theorem ofNat_ne_nil (n : Nat) : ofNat n ≠ [] := by
  rw [ofNat]
  split <;> simp

theorem utf8EncodeChar_digitChar {n : Nat} (h : n < 10) : String.utf8EncodeChar n.digitChar = [digit n] := by
  revert n
  decide

theorem ofNat_eq_utf8 (n : Nat) : ofNat n = utf8 n.repr := by
  rw [utf8, Nat.toList_repr]
  fun_induction ofNat n with
  | case1 n hsmall => rw [Nat.toDigits_of_lt_base hsmall, List.flatMap_singleton, utf8EncodeChar_digitChar hsmall]
  | case2 n hlarge ih =>
    have hlast := utf8EncodeChar_digitChar (Nat.mod_lt n (show 0 < 10 by decide))
    rw [Nat.toDigits_of_base_le (by decide) (Nat.le_of_not_lt hlarge), List.flatMap_append, ← ih,
      List.flatMap_singleton, hlast]

/-- The decimal text of a number is how it is shown. -/
theorem ofInt_eq_utf8 (n : Int) : ofInt n = utf8 (toString n) := by
  rw [Int.toString_eq_repr]
  cases n with
  | ofNat n => exact ofNat_eq_utf8 n
  | negSucc n =>
    have hsign : utf8 ("-" ++ (n + 1).repr) = Byte.minus :: utf8 (n + 1).repr := by
      rw [utf8, String.toList_append, List.flatMap_append]
      rfl
    exact (congrArg (Byte.minus :: ·) (ofNat_eq_utf8 (n + 1))).trans hsign.symm

end Decimal

namespace Value

open Decimal in
/-- The digits of a number add up to it, modulo the range of integers. -/
theorem foldl_ofNat (n : Nat) :
    (ofNat n).foldl (fun n b => n * 10 + Int64.ofNat (Byte.digitValue b)) 0 = Int64.ofNat n := by
  fun_induction ofNat n with
  | case1 n hsmall => simp [digitValue_digit hsmall]
  | case2 n hlarge ih =>
    have hlast := digitValue_digit (Nat.mod_lt n (show 0 < 10 by decide))
    rw [List.foldl_append, ih]
    simp only [List.foldl_cons, List.foldl_nil, hlast]
    calc Int64.ofNat (n / 10) * 10 + Int64.ofNat (n % 10)
        = Int64.ofNat (n / 10 * 10 + n % 10) := by rw [Int64.ofNat_add, Int64.ofNat_mul]; rfl
      _ = Int64.ofNat n := by rw [Nat.div_add_mod']

theorem magnitude_ofNat (n : Nat) : leadingInt.magnitude (Decimal.ofNat n) = Int64.ofNat n := by
  have hdigits : (Decimal.ofNat n).takeWhile Byte.isDigit = Decimal.ofNat n :=
    List.takeWhile_eq_self_iff.mpr fun b hb => Decimal.isDigit_of_mem_ofNat hb
  rw [leadingInt.magnitude, hdigits, foldl_ofNat]

/-- A digit is neither a blank nor a sign. -/
theorem leadingInt_digit {b : UInt8} {rest : Bytes} (h : Byte.isDigit b = true) :
    leadingInt (b :: rest) = leadingInt.magnitude (b :: rest) := by
  have hrange : 0x30 ≤ b.toNat ∧ b.toNat ≤ 0x39 := by
    simpa [Byte.isDigit, UInt8.le_iff_toNat_le] using h
  have hne : ∀ n : UInt8, n.toNat < 0x30 → b ≠ n := by
    rintro n hn rfl
    omega
  have hblank : Byte.isBlank b = false := by
    simp [Byte.isBlank, hne]
  rw [leadingInt, List.dropWhile_cons_of_neg (by simp [hblank])]
  split
  · rename_i heq
    exact absurd (List.cons.inj heq).1 (hne 0x2d (by decide))
  · rename_i heq
    exact absurd (List.cons.inj heq).1 (hne 0x2b (by decide))
  · rfl

/-- Decimal text is read as the integer that it was written for. -/
theorem leadingInt_decimal (i : Int64) : leadingInt (decimal i) = i := by
  have hi := Int64.ofInt_toInt i
  unfold decimal
  cases hint : i.toInt with
  | ofNat n =>
    rw [hint] at hi
    obtain ⟨b, rest, hdigits⟩ := List.exists_cons_of_ne_nil (Decimal.ofNat_ne_nil n)
    have hb : b ∈ Decimal.ofNat n := hdigits ▸ List.mem_cons_self
    calc leadingInt (Decimal.ofInt (.ofNat n))
        = leadingInt (Decimal.ofNat n) := rfl
      _ = leadingInt.magnitude (Decimal.ofNat n) := by
          rw [hdigits, leadingInt_digit (Decimal.isDigit_of_mem_ofNat hb)]
      _ = Int64.ofNat n := magnitude_ofNat n
      _ = i := hi
  | negSucc n =>
    rw [hint] at hi
    calc leadingInt (Decimal.ofInt (.negSucc n))
        = -leadingInt.magnitude (Decimal.ofNat (n + 1)) := rfl
      _ = -Int64.ofNat (n + 1) := by rw [magnitude_ofNat]
      _ = i := by rw [← hi, Int.negSucc_eq, Int64.ofInt_neg]; rfl

/-- The text of a value is read off its bytes. -/
theorem toText?_eq (v : Value) : v.toText? = v.toBytes?.map Utf8.decodeLossy := by
  cases v with
  | str text => exact congrArg some (Utf8.decodeLossy_utf8 text).symm
  | _ => rfl

/-- The integer of a value is read off its bytes. -/
theorem toInt?_eq (v : Value) : v.toInt? = v.toBytes?.map leadingInt := by
  cases v with
  | int i => exact congrArg some (leadingInt_decimal i).symm
  | _ => rfl

end Value

end ScriptExec
