import Mathlib.Tactic.Lemma
import PEInspect.Text.Utf8

/-!
# UTF-8 read back

Lossy decoding undoes encoding: each character is read back from its one to four bytes as one piece
(`readPiece_encodeChar`), so nothing of a text is replaced (`decodeLossy_encode`). The bounds on the
second byte are met because characters are neither surrogates nor beyond the last code point, and
because the shorter forms are used where they are long enough.
-/

namespace PEInspect.Text

/-- A continuation byte carries six bits. -/
lemma toNat_continuation (n : Nat) : (continuation n).toNat = 0x80 + n % 64 := by
  rw [continuation, UInt8.toNat_ofNat']
  omega

/-- A leading byte for two bytes after it. -/
lemma Lead.ofByte?_three {b : Nat} (low : 0xE0 ≤ b) (high : b < 0xF0) :
    Lead.ofByte? b = some ⟨2, if b = 0xE0 then 0xA0 else 0x80, if b = 0xED then 0x9F else 0xBF,
      b - 0xE0⟩ := by
  rw [ofByte?, if_neg (by omega), if_neg (by omega), if_neg (by omega)]
  by_cases first : b = 0xE0
  · subst first
    rfl
  · rw [if_neg first, if_neg first]
    by_cases last : b = 0xED
    · subst last
      rfl
    · rw [if_neg last, if_neg last, if_pos high]

/-- A leading byte for three bytes after it. -/
lemma Lead.ofByte?_four {b : Nat} (low : 0xF0 ≤ b) (high : b ≤ 0xF4) :
    Lead.ofByte? b = some ⟨3, if b = 0xF0 then 0x90 else 0x80, if b = 0xF4 then 0x8F else 0xBF,
      b - 0xF0⟩ := by
  rw [ofByte?, if_neg (by omega), if_neg (by omega), if_neg (by omega), if_neg (by omega),
    if_neg (by omega), if_neg (by omega)]
  by_cases first : b = 0xF0
  · subst first
    rfl
  · rw [if_neg first, if_neg first]
    by_cases last : b = 0xF4
    · subst last
      rfl
    · rw [if_neg last, if_neg last, if_pos (by omega)]

variable {n : Nat} (rest : List UInt8)

/-- A byte that carries six bits and keeps to the bounds is taken. -/
lemma readTail_continuation {low high : Nat} (owed bits used : Nat) (above : low ≤ 0x80 + n % 64)
    (below : 0x80 + n % 64 ≤ high) :
    readTail (owed + 1) low high bits used (continuation n :: rest) =
      readTail owed 0x80 0xBF (bits * 64 + n % 64) (used + 1) rest := by
  have taken : low ≤ (continuation n).toNat ∧ (continuation n).toNat ≤ high := by
    rw [toNat_continuation]
    exact ⟨above, below⟩
  have six : (continuation n).toNat % 64 = n % 64 := by
    rw [toNat_continuation]
    omega
  rw [readTail]
  dsimp only
  rw [if_pos taken, six]

/-- The bounds that hold after the second byte keep no continuation byte out. -/
lemma readTail_free (owed bits used : Nat) :
    readTail (owed + 1) 0x80 0xBF bits used (continuation n :: rest) =
      readTail owed 0x80 0xBF (bits * 64 + n % 64) (used + 1) rest := by
  apply readTail_continuation <;> omega

/-! ## Pieces of each length -/

/-- A byte of the lower half is a piece. -/
lemma readPiece_one (high : n < 0x80) : readPiece (UInt8.ofNat n) rest = ⟨some n, 0⟩ := by
  have lead : (UInt8.ofNat n).toNat = n := by
    rw [UInt8.toNat_ofNat']
    omega
  rw [readPiece, lead, Lead.ofByte?, if_pos high]
  rfl

/-- A piece of two bytes is read as its number. -/
lemma readPiece_two (low : 0x80 ≤ n) (high : n < 0x800) :
    readPiece (UInt8.ofNat (0xC0 + n / 64)) (continuation n :: rest) = ⟨some n, 1⟩ := by
  have lead : (UInt8.ofNat (0xC0 + n / 64)).toNat = 0xC0 + n / 64 := by
    rw [UInt8.toNat_ofNat']
    omega
  have whole : (0xC0 + n / 64 - 0xC0) * 64 + n % 64 = n := by omega
  rw [readPiece, lead, Lead.ofByte?, if_neg (by omega), if_neg (by omega), if_pos (by omega)]
  dsimp only
  rw [readTail_free, whole]
  rfl

/-- Three bytes are read back: overlong forms and surrogates are the only ones kept out. -/
lemma readPiece_three (low : 0x800 ≤ n) (high : n < 0x10000) (scalar : n < 0xD800 ∨ 0xDFFF < n) :
    readPiece (UInt8.ofNat (0xE0 + n / 4096)) (continuation (n / 64) :: continuation n :: rest) =
      ⟨some n, 2⟩ := by
  have lead : (UInt8.ofNat (0xE0 + n / 4096)).toNat = 0xE0 + n / 4096 := by
    rw [UInt8.toNat_ofNat']
    omega
  have whole : ((0xE0 + n / 4096 - 0xE0) * 64 + n / 64 % 64) * 64 + n % 64 = n := by omega
  rw [readPiece, lead, Lead.ofByte?_three (by omega) (by omega)]
  dsimp only
  rw [readTail_continuation, readTail_free, whole]
  · rfl
  · split <;> omega
  · split <;> omega

/-- Four bytes are read back: overlong forms and numbers beyond the last code point are the only
ones kept out. -/
lemma readPiece_four (low : 0x10000 ≤ n) (high : n < 0x110000) :
    readPiece (UInt8.ofNat (0xF0 + n / 262144))
        (continuation (n / 4096) :: continuation (n / 64) :: continuation n :: rest) =
      ⟨some n, 3⟩ := by
  have lead : (UInt8.ofNat (0xF0 + n / 262144)).toNat = 0xF0 + n / 262144 := by
    rw [UInt8.toNat_ofNat']
    omega
  have whole : (((0xF0 + n / 262144 - 0xF0) * 64 + n / 4096 % 64) * 64 + n / 64 % 64) * 64 + n % 64
      = n := by omega
  rw [readPiece, lead, Lead.ofByte?_four (by omega) (by omega)]
  dsimp only
  rw [readTail_continuation, readTail_free, readTail_free, whole]
  · rfl
  · split <;> omega
  · split <;> omega

/-! ## Characters and texts -/

/-- A character is neither a surrogate nor beyond the last code point. -/
lemma toNat_scalar (c : Char) : c.toNat < 0xD800 ∨ 0xDFFF < c.toNat ∧ c.toNat < 0x110000 :=
  c.valid

/-- The bytes of a character are one piece, whatever follows them. -/
lemma readPiece_encodeChar (c : Char) :
    ∃ b tail, encodeChar c = b :: tail ∧ readPiece b (tail ++ rest) = ⟨some c.toNat, tail.length⟩ := by
  have scalar := toNat_scalar c
  rw [encodeChar]
  split
  · rename_i high
    exact ⟨_, [], rfl, readPiece_one rest high⟩
  split
  · rename_i low high
    exact ⟨_, [_], rfl, readPiece_two rest (Nat.le_of_not_lt low) high⟩
  split
  · rename_i low high
    exact ⟨_, [_, _], rfl, readPiece_three rest (Nat.le_of_not_lt low) high (by omega)⟩
  · rename_i low
    exact ⟨_, [_, _, _], rfl, readPiece_four rest (Nat.le_of_not_lt low) (by omega)⟩

/-- The bytes of a character are decoded as the character. -/
lemma decodeLossy_encodeChar (c : Char) :
    decodeLossy (encodeChar c ++ rest) = c :: decodeLossy rest := by
  obtain ⟨b, tail, bytes, piece⟩ := readPiece_encodeChar rest c
  rw [bytes, List.cons_append, decodeLossy, piece]
  dsimp only
  rw [Char.ofNat_toNat, List.drop_left]

/-- Lossy decoding undoes encoding. -/
lemma decodeLossy_encode (s : List Char) : decodeLossy (encode s) = s := by
  induction s with
  | nil =>
    rw [encode, List.flatMap_nil, decodeLossy]
  | cons c s ih =>
    have bytes : encode (c :: s) = encodeChar c ++ encode s := List.flatMap_cons
    rw [bytes, decodeLossy_encodeChar, ih]

end PEInspect.Text
