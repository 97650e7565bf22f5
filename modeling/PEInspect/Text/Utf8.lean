/-!
# UTF-8

The encoding of texts as bytes and two decoders: a strict one, which refuses malformed input, and a
lossy one, which puts U+FFFD for each maximal piece of a malformed sequence. Both are built on one
step, which looks at the bytes after a leading byte.
-/

namespace PEInspect.Text

/-- A continuation byte that carries six bits. -/
def continuation (n : Nat) : UInt8 :=
  UInt8.ofNat (0x80 + n % 64)

/-- The bytes of one character. -/
def encodeChar (c : Char) : List UInt8 :=
  let n := c.toNat
  if n < 0x80 then [UInt8.ofNat n]
  else if n < 0x800 then [UInt8.ofNat (0xC0 + n / 64), continuation n]
  else if n < 0x10000 then
    [UInt8.ofNat (0xE0 + n / 4096), continuation (n / 64), continuation n]
  else
    [UInt8.ofNat (0xF0 + n / 262144), continuation (n / 4096), continuation (n / 64),
      continuation n]

/-- The bytes of a text. -/
def encode (s : List Char) : List UInt8 :=
  s.flatMap encodeChar

/-- What the bytes after a leading byte must look like: how many there are, the bounds of the
first of them, and the bits that the leading byte contributes. -/
structure Lead where
  tail : Nat
  low : Nat
  high : Nat
  bits : Nat
  deriving Repr, DecidableEq

/-- The reading of a leading byte. The bounds exclude overlong forms, surrogates and numbers
beyond the last code point; a byte that starts no character has none. -/
def Lead.ofByte? (b : Nat) : Option Lead :=
  if b < 0x80 then some ⟨0, 0x80, 0xBF, b⟩
  else if b < 0xC2 then none
  else if b < 0xE0 then some ⟨1, 0x80, 0xBF, b - 0xC0⟩
  else if b = 0xE0 then some ⟨2, 0xA0, 0xBF, 0⟩
  else if b = 0xED then some ⟨2, 0x80, 0x9F, 0xD⟩
  else if b < 0xF0 then some ⟨2, 0x80, 0xBF, b - 0xE0⟩
  else if b = 0xF0 then some ⟨3, 0x90, 0xBF, 0⟩
  else if b < 0xF4 then some ⟨3, 0x80, 0xBF, b - 0xF0⟩
  else if b = 0xF4 then some ⟨3, 0x80, 0x8F, 4⟩
  else none

/-- One step of decoding: the code point, or `none` where the sequence breaks off, and in both
cases how many bytes after the leading one belong to it. -/
structure Piece where
  code : Option Nat
  used : Nat
  deriving Repr, DecidableEq

/-- Reads the continuation bytes that are still owed; `low` and `high` bound the next one. -/
def readTail (owed low high bits used : Nat) : List UInt8 → Piece :=
  match owed with
  | 0 => fun _ => ⟨some bits, used⟩
  | owed + 1 => fun
    | [] => ⟨none, used⟩
    | b :: rest =>
      if low ≤ b.toNat ∧ b.toNat ≤ high then
        readTail owed 0x80 0xBF (bits * 64 + b.toNat % 64) (used + 1) rest
      else ⟨none, used⟩

/-- The piece that starts with byte `b` and goes on into `rest`. -/
def readPiece (b : UInt8) (rest : List UInt8) : Piece :=
  match Lead.ofByte? b.toNat with
  | none => ⟨none, 0⟩
  | some lead => readTail lead.tail lead.low lead.high lead.bits 0 rest

/-- Decodes bytes and refuses malformed ones. -/
def decode? : List UInt8 → Option (List Char)
  | [] => some []
  | b :: rest =>
    match (readPiece b rest).code with
    | none => none
    | some n => (decode? (rest.drop (readPiece b rest).used)).map (Char.ofNat n :: ·)
  termination_by bytes => bytes.length
  decreasing_by simp only [List.length_drop, List.length_cons]; omega

/-- Decodes bytes with U+FFFD in place of each maximal malformed piece. -/
def decodeLossy : List UInt8 → List Char
  | [] => []
  | b :: rest =>
    let c := match (readPiece b rest).code with
      | none => Char.ofNat 0xFFFD
      | some n => Char.ofNat n
    c :: decodeLossy (rest.drop (readPiece b rest).used)
  termination_by bytes => bytes.length
  decreasing_by simp only [List.length_drop, List.length_cons]; omega

end PEInspect.Text
