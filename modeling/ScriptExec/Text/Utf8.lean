-- SUMMARY: Reading bytes as UTF-8, strictly or with replacement characters.
import ScriptExec.Bytes

/-!
# UTF-8

Bytes are cut into well-formed characters and maximal ill-formed pieces: an ill-formed piece is a
byte that starts no character, or the longest start of a character that the next byte does not
continue. Strict reading refuses ill-formed pieces, lossy reading puts U+FFFD in place of each.
-/

namespace ScriptExec.Utf8

/-- What a first byte asks of the bytes that follow it. -/
structure Lead where
  /-- How many bytes follow. -/
  owed : Nat
  /-- Least value of the second byte. -/
  low : UInt8
  /-- Greatest value of the second byte. -/
  high : UInt8
  /-- The bits of the character that the first byte holds. -/
  bits : Nat

/-- The first bytes of characters. Overlong forms, surrogates and values above U+10FFFF are ruled
out by the range of the second byte. -/
def Lead.of (b : UInt8) : Option Lead :=
  if b ≤ 0x7f then some ⟨0, 0x80, 0xbf, b.toNat⟩
  else if b < 0xc2 then none
  else if b ≤ 0xdf then some ⟨1, 0x80, 0xbf, b.toNat - 0xc0⟩
  else if b = 0xe0 then some ⟨2, 0xa0, 0xbf, 0⟩
  else if b = 0xed then some ⟨2, 0x80, 0x9f, 0xd⟩
  else if b ≤ 0xef then some ⟨2, 0x80, 0xbf, b.toNat - 0xe0⟩
  else if b = 0xf0 then some ⟨3, 0x90, 0xbf, 0⟩
  else if b ≤ 0xf3 then some ⟨3, 0x80, 0xbf, b.toNat - 0xf0⟩
  else if b = 0xf4 then some ⟨3, 0x80, 0x8f, 4⟩
  else none

/-- Reads the bytes a character still owes: its value, or nothing if the text does not continue it,
and the bytes that were not read. -/
def continuation : (owed : Nat) → (low high : UInt8) → (bits : Nat) → Bytes → Option Nat × Bytes
  | 0, _, _, bits, rest => (some bits, rest)
  | _ + 1, _, _, _, [] => (none, [])
  | owed + 1, low, high, bits, b :: rest =>
    if low ≤ b ∧ b ≤ high then
      continuation owed 0x80 0xbf (bits * 64 + (b.toNat - 0x80)) rest
    else
      (none, b :: rest)

theorem continuation_length_le (owed : Nat) (low high : UInt8) (bits : Nat) (bytes : Bytes) :
    (continuation owed low high bits bytes).2.length ≤ bytes.length := by
  induction owed generalizing low high bits bytes with
  | zero => simp [continuation]
  | succ owed ih =>
    cases bytes with
    | nil => simp [continuation]
    | cons b rest =>
      simp only [continuation]
      split
      · exact Nat.le_succ_of_le (ih ..)
      · simp

/-- The piece that starts with byte `b`: a character, or nothing for an ill-formed piece, and the
bytes after it. -/
def piece (b : UInt8) (rest : Bytes) : Option Char × Bytes :=
  match Lead.of b with
  | none => (none, rest)
  | some lead =>
    match continuation lead.owed lead.low lead.high lead.bits rest with
    | (some code, after) => (some (Char.ofNat code), after)
    | (none, after) => (none, after)

theorem piece_length_le (b : UInt8) (rest : Bytes) : (piece b rest).2.length ≤ rest.length := by
  unfold piece
  split
  · exact Nat.le_refl _
  · rename_i lead _
    have h := continuation_length_le lead.owed lead.low lead.high lead.bits rest
    split <;> simp_all

/-- Adds the pieces of `bytes`, in order, to the reversed list `done`. -/
def piecesOnto (done : List (Option Char)) : Bytes → List (Option Char)
  | [] => done.reverse
  | b :: rest => piecesOnto ((piece b rest).1 :: done) (piece b rest).2
termination_by bytes => bytes.length
decreasing_by exact Nat.lt_succ_of_le (piece_length_le b rest)

/-- The characters of the bytes, `none` standing for an ill-formed piece. -/
def pieces (bytes : Bytes) : List (Option Char) :=
  piecesOnto [] bytes

/-- The text of well-formed bytes. -/
def decode? (bytes : Bytes) : Option String :=
  let found := pieces bytes
  if found.all Option.isSome then some (String.ofList (found.filterMap id)) else none

/-- The text of any bytes, U+FFFD standing for each ill-formed piece. -/
def decodeLossy (bytes : Bytes) : String :=
  String.ofList ((pieces bytes).map (·.getD '\uFFFD'))

end ScriptExec.Utf8
