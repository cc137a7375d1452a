-- SUMMARY: Which integer stands at the start of a text, modulo the range of 64 bits.
import Mathlib.Data.List.Induction
import Mathlib.Data.Nat.Digits.Defs
import ScriptExec.Proofs.Value.Forms

/-!
# Integers at the start of texts

The start of a text is cut into blanks, at most one sign, and digits. There is one way to do that so that none of the
parts goes on in the next one (`Cut.text_eq_and_longest_iff`), and the integer form of a scalar is the number of those
digits with that sign, modulo `2 ^ 64` (`integer_form_wraps`). What stands after the digits has no part in it.
-/

namespace ScriptExec

/-- What may stand in front of digits. -/
inductive Sign
  | absent
  | plus
  | minus
  deriving DecidableEq

namespace Sign

def text : Sign → Bytes
  | absent => []
  | plus => [Byte.plus]
  | minus => [Byte.minus]

def apply (n : Int) : Sign → Int
  | minus => -n
  | _ => n

end Sign

/-- The number that digits stand for; the last one counts the ones. -/
def Decimal.number (digits : Bytes) : Nat :=
  Nat.ofDigits 10 (digits.reverse.map Byte.digitValue)

/-- No byte of a class comes first. -/
def StartsOutside (p : UInt8 → Bool) (s : Bytes) : Prop :=
  ∀ b ∈ s.head?, p b = false

theorem takeWhile_append_of_outside {p : UInt8 → Bool} {s rest : Bytes} (hs : ∀ b ∈ s, p b = true)
    (hrest : StartsOutside p rest) : (s ++ rest).takeWhile p = s := by
  rw [List.takeWhile_append_of_pos hs]
  cases rest with
  | nil => simp
  | cons b rest => simp [hrest b rfl]

theorem dropWhile_append_of_outside {p : UInt8 → Bool} {s rest : Bytes} (hs : ∀ b ∈ s, p b = true)
    (hrest : StartsOutside p rest) : (s ++ rest).dropWhile p = rest := by
  rw [List.dropWhile_append_of_pos hs]
  cases rest with
  | nil => rfl
  | cons b rest => simp [hrest b rfl]

theorem startsOutside_dropWhile (p : UInt8 → Bool) (s : Bytes) : StartsOutside p (s.dropWhile p) := by
  intro b hb
  have hfirst := List.head?_dropWhile_not p s
  rw [Option.mem_def.mp hb] at hfirst
  simpa using hfirst

/-- A text in four parts. -/
structure Cut where
  blanks : Bytes
  sign : Sign
  digits : Bytes
  rest : Bytes
  deriving DecidableEq

namespace Cut

/-- The sign, and what comes after it. -/
def body (cut : Cut) : Bytes :=
  cut.sign.text ++ (cut.digits ++ cut.rest)

def text (cut : Cut) : Bytes :=
  cut.blanks ++ cut.body

/-- The integer that is written there, however large. -/
def value (cut : Cut) : Int :=
  cut.sign.apply (Decimal.number cut.digits)

/-- The first three parts are what they are called, and none of them goes on in the part after it. -/
structure Longest (cut : Cut) : Prop where
  blanks : ∀ b ∈ cut.blanks, Byte.isBlank b = true
  digits : ∀ b ∈ cut.digits, Byte.isDigit b = true
  blanks_end : StartsOutside Byte.isBlank cut.body
  sign_absent : cut.sign = .absent → StartsOutside (fun b => b == Byte.plus || b == Byte.minus) cut.body
  digits_end : StartsOutside Byte.isDigit cut.rest

/-! ## One way to cut -/

/-- The sign at the start of a text, and what comes after it. -/
def splitSign : Bytes → Sign × Bytes
  | 0x2d :: rest => (.minus, rest)
  | 0x2b :: rest => (.plus, rest)
  | rest => (.absent, rest)

theorem splitSign_text (s : Bytes) : (splitSign s).1.text ++ (splitSign s).2 = s := by
  unfold splitSign
  split <;> rfl

theorem splitSign_absent {s : Bytes} (h : (splitSign s).1 = .absent) :
    StartsOutside (fun b => b == Byte.plus || b == Byte.minus) s := by
  unfold splitSign at h
  split at h
  · cases h
  · cases h
  · rename_i hminus hplus
    intro b hb
    obtain ⟨rest, rfl⟩ := List.head?_eq_some_iff.mp hb
    have hne : b ≠ Byte.plus ∧ b ≠ Byte.minus :=
      ⟨fun heq => hplus rest (heq ▸ rfl), fun heq => hminus rest (heq ▸ rfl)⟩
    simp [hne]

theorem splitSign_of_longest {cut : Cut} (h : cut.Longest) :
    splitSign cut.body = (cut.sign, cut.digits ++ cut.rest) := by
  have habsent := h.sign_absent
  unfold body at habsent ⊢
  cases hsign : cut.sign with
  | minus | plus => rfl
  | absent =>
    have hfirst := habsent hsign
    rw [hsign] at hfirst
    change StartsOutside _ (cut.digits ++ cut.rest) at hfirst
    change splitSign (cut.digits ++ cut.rest) = _
    unfold splitSign
    split
    · rename_i heq
      rw [heq] at hfirst
      exact absurd (hfirst _ rfl) (by decide)
    · rename_i heq
      rw [heq] at hfirst
      exact absurd (hfirst _ rfl) (by decide)
    · rfl

/-- How a text is cut. -/
def of (s : Bytes) : Cut :=
  let (sign, rest) := splitSign (s.dropWhile Byte.isBlank)
  ⟨s.takeWhile Byte.isBlank, sign, rest.takeWhile Byte.isDigit, rest.dropWhile Byte.isDigit⟩

theorem of_body (s : Bytes) : (of s).body = s.dropWhile Byte.isBlank := by
  simp only [of, body, List.takeWhile_append_dropWhile, splitSign_text]

theorem of_text (s : Bytes) : (of s).text = s := by
  rw [text, of_body]
  exact List.takeWhile_append_dropWhile

theorem of_longest (s : Bytes) : (of s).Longest where
  blanks _ hb := List.mem_takeWhile_imp hb
  digits _ hb := List.mem_takeWhile_imp hb
  blanks_end := by
    rw [of_body]
    exact startsOutside_dropWhile _ s
  sign_absent habsent := by
    rw [of_body]
    exact splitSign_absent habsent
  digits_end := startsOutside_dropWhile _ _

theorem Longest.eq_of {cut : Cut} (h : cut.Longest) : of cut.text = cut := by
  have hblanks : cut.text.takeWhile Byte.isBlank = cut.blanks := takeWhile_append_of_outside h.blanks h.blanks_end
  have hbody : cut.text.dropWhile Byte.isBlank = cut.body := dropWhile_append_of_outside h.blanks h.blanks_end
  simp only [of, hblanks, hbody, splitSign_of_longest h, takeWhile_append_of_outside h.digits h.digits_end,
    dropWhile_append_of_outside h.digits h.digits_end]

theorem text_eq_and_longest_iff (s : Bytes) (cut : Cut) : cut.text = s ∧ cut.Longest ↔ cut = of s := by
  constructor
  · rintro ⟨rfl, hlongest⟩
    exact hlongest.eq_of.symm
  · rintro rfl
    exact ⟨of_text s, of_longest s⟩

end Cut

/-! ## Digits that wrap -/

theorem Decimal.number_append (digits : Bytes) (b : UInt8) :
    number (digits ++ [b]) = number digits * 10 + Byte.digitValue b := by
  rw [number, List.reverse_append, List.map_append, Nat.ofDigits_append]
  simp [number, Nat.mul_comm, Nat.add_comm]

namespace Value

/-- Each digit wraps, and so does the number of them all. -/
theorem foldl_digits (digits : Bytes) :
    digits.foldl (fun n b => n * 10 + Int64.ofNat (Byte.digitValue b)) 0 = Int64.ofNat (Decimal.number digits) := by
  induction digits using List.reverseRecOn with
  | nil => rfl
  | append_singleton digits b ih =>
    rw [List.foldl_append, ih, Decimal.number_append, Int64.ofNat_add, Int64.ofNat_mul]
    rfl

theorem leadingInt_eq (s : Bytes) :
    leadingInt s =
      let (sign, rest) := Cut.splitSign (s.dropWhile Byte.isBlank)
      if sign = .minus then -leadingInt.magnitude rest else leadingInt.magnitude rest := by
  unfold leadingInt
  split
  · rename_i heq
    rw [heq]
    rfl
  · rename_i heq
    rw [heq]
    rfl
  · simp [Cut.splitSign]

theorem leadingInt_of_longest {cut : Cut} (h : cut.Longest) : leadingInt cut.text = Int64.ofInt cut.value := by
  have hbody : cut.text.dropWhile Byte.isBlank = cut.body := dropWhile_append_of_outside h.blanks h.blanks_end
  have hdigits : leadingInt.magnitude (cut.digits ++ cut.rest) = Int64.ofNat (Decimal.number cut.digits) := by
    rw [leadingInt.magnitude, takeWhile_append_of_outside h.digits h.digits_end, foldl_digits]
  rw [leadingInt_eq, hbody, Cut.splitSign_of_longest h]
  dsimp only
  rw [hdigits, Cut.value]
  cases cut.sign with
  | absent | plus => rfl
  | minus => exact (Int64.ofInt_neg (Decimal.number cut.digits)).symm

/-- The integer form of a scalar is what is written at the start of its bytes, wrapped to 64 bits. It depends on the
sign and the digits alone; and the bytes of an integer give that integer again. -/
theorem integer_form_wraps {v : Value} {s : Bytes} (h : v.toBytes? = some s) :
    ∃ cut : Cut, (∀ cut' : Cut, cut'.text = s ∧ cut'.Longest ↔ cut' = cut) ∧
      (∃ i, v.toInt? = some i ∧ i.toInt = cut.value.bmod (2 ^ 64)) ∧
      (∀ (cut' : Cut) (v' : Value), cut'.Longest → cut'.sign = cut.sign → cut'.digits = cut.digits →
        v'.toBytes? = some cut'.text → v'.toInt? = v.toInt?) ∧
      ∀ i : Int64, (Value.int i).toBytes? = some s → v.toInt? = some i := by
  have hint : v.toInt? = some (leadingInt s) := by rw [toInt?_eq, h, Option.map_some]
  have hvalue : leadingInt s = Int64.ofInt (Cut.of s).value := by
    rw [← leadingInt_of_longest (Cut.of_longest s), Cut.of_text]
  refine ⟨Cut.of s, Cut.text_eq_and_longest_iff s, ⟨_, hint, ?_⟩, ?_, ?_⟩
  · rw [hvalue]
    exact Int64.toInt_ofInt
  · intro cut' v' hlongest hsign hdigits hbytes
    have hsame : cut'.value = (Cut.of s).value := by rw [Cut.value, Cut.value, hsign, hdigits]
    rw [hint, hvalue, ← hsame, ← leadingInt_of_longest hlongest, toInt?_eq, hbytes, Option.map_some]
  · intro i hi
    rw [toInt?_eq, h, ← hi, ← toInt?_eq]
    rfl

/-- One less than the least integer, between a tab and a letter, wraps to the greatest. -/
theorem integer_form_wraps_of_underflow :
    let s := utf8 "\t-9223372036854775809x"
    (Value.data s).toBytes? = some s ∧ ∃ i, (Value.data s).toInt? = some i ∧ i.toInt = 9223372036854775807 := by
  intro s
  have hbytes : (Value.data s).toBytes? = some s := rfl
  obtain ⟨cut, hcut, ⟨i, hint, hi⟩, -⟩ := integer_form_wraps hbytes
  have hvalue : (Cut.of s).value.bmod (2 ^ 64) = 9223372036854775807 := by decide +kernel
  rw [← (hcut (Cut.of s)).mp ⟨Cut.of_text s, Cut.of_longest s⟩, hvalue] at hi
  exact ⟨hbytes, i, hint, hi⟩

end Value

end ScriptExec
