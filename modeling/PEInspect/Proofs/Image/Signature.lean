import Mathlib.Data.Nat.Digits.Defs
import PEInspect.Image.Signature

/-!
# What decides about a signature

The check of a signature asks for no byte that is not there: its answer is the same whatever a piece
out of range comes to (`checkThrough_eq`). It accepts the data with a full header, the first two bytes
and the signature at the stored offset (`looksLikeImage_iff`). So the shortest accepted prefix ends
with the header or with the signature (`Signed.take_iff`), nothing behind it matters
(`signed_append_iff`), and a refusal is final unless the data end before the signature does
(`exists_signed_append_iff`).
-/

namespace PEInspect

namespace Bytes

variable {data : Bytes} {offset count : Nat}

/-- What follows some data does not change the pieces inside of them. -/
lemma piece_append (inside : offset + count ≤ data.length) (suffix : Bytes) :
    (data ++ suffix).piece offset count = data.piece offset count := by
  have here : count ≤ (data.drop offset).length := by
    rw [List.length_drop]
    omega
  rw [piece, piece, List.drop_append_of_le_length (by omega), List.take_append_of_le_length here]

/-- A prefix has the pieces that end inside of it. -/
lemma piece_take {n : Nat} (inside : offset + count ≤ n) :
    piece (data.take n) offset count = data.piece offset count := by
  rw [piece, piece, List.drop_take, List.take_take, Nat.min_eq_left (by omega)]

/-- Bytes are the digits of their number. -/
lemma littleEndian_eq (bytes : List UInt8) :
    littleEndian bytes = Nat.ofDigits 256 (bytes.map UInt8.toNat) := by
  induction bytes with
  | nil => rfl
  | cons b rest ih =>
    rw [littleEndian, ih, List.map_cons, Nat.ofDigits_cons]

end Bytes

/-- The 32-bit number at 0x3C, whose first byte is the least significant one. -/
def storedOffset (data : Bytes) : Nat :=
  Nat.ofDigits 256 ((data.piece 0x3C 4).map UInt8.toNat)

/-- Data that carry the signature of an image. -/
structure Signed (data : Bytes) : Prop where
  header : 64 ≤ data.length
  magic : dosMagic <+: data
  signature : peSignature <+: data.drop (storedOffset data)

variable {data : Bytes}

/-- What follows a header does not change the offset in it. -/
lemma storedOffset_append (header : 64 ≤ data.length) (suffix : Bytes) :
    storedOffset (data ++ suffix) = storedOffset data := by
  rw [storedOffset, Bytes.piece_append (by omega), storedOffset]

/-- A prefix that keeps the header keeps the offset in it. -/
lemma storedOffset_take {n : Nat} (header : 64 ≤ n) :
    storedOffset (data.take n) = storedOffset data := by
  rw [storedOffset, Bytes.piece_take (by omega), storedOffset]

/-- The offset is read from data that are long enough for a header. -/
lemma number_storedOffset (header : 64 ≤ data.length) :
    data.number? signatureField 4 = some (storedOffset data) := by
  have inside : signatureField + 4 ≤ data.length := header
  rw [Bytes.number?, if_pos inside, Bytes.littleEndian_eq]
  rfl

/-- A piece consists of some bytes if the data go on with them there. -/
lemma piece_eq_iff {offset count : Nat} {bytes : Bytes} (whole : bytes.length = count) :
    data.piece offset count = bytes ↔ bytes <+: data.drop offset := by
  rw [List.prefix_iff_eq_take, eq_comm, whole]
  rfl

/-- The first two bytes are the magic if the data start with it. -/
lemma piece_eq_magic : data.piece 0 2 = dosMagic ↔ dosMagic <+: data :=
  piece_eq_iff rfl

/-- The four bytes at an offset are the signature if the data go on with it there. -/
lemma piece_eq_signature {offset : Nat} :
    data.piece offset 4 = peSignature ↔ peSignature <+: data.drop offset :=
  piece_eq_iff rfl

/-- The signature ends inside of the data. -/
lemma Signed.inside (signed : Signed data) : storedOffset data + 4 ≤ data.length := by
  have fits : 4 ≤ (data.drop (storedOffset data)).length := signed.signature.length_le
  rw [List.length_drop] at fits
  omega

/-! ## The check reads inside of the data -/

/-- A way of taking pieces of some data that is right about the pieces inside of them, and may come to
anything out of range. -/
def RightInside (data : Bytes) (piece? : Nat → Nat → Option Bytes) : Prop :=
  ∀ offset count, offset + count ≤ data.length → piece? offset count = some (data.piece offset count)

/-- The check of a signature over a way of taking pieces. -/
def checkThrough (data : Bytes) (piece? : Nat → Nat → Option Bytes) : Option Bool :=
  if data.length < dosHeaderSize then some false
  else do
    let start ← piece? 0 2
    if start ≠ dosMagic then return false
    let offset ← data.number? signatureField 4
    if data.length < offset + 4 then return false
    return (← piece? offset 4) == peSignature

/-- The check comes to an answer whatever is said about pieces out of range, and accepts the data that
carry a signature. -/
lemma exists_answer {piece? : Nat → Nat → Option Bytes} (right : RightInside data piece?) :
    ∃ answer, checkThrough data piece? = some answer ∧ (answer = true ↔ Signed data) := by
  rw [checkThrough]
  -- The cases come in the order of the checks, so that each reading is inside by the ones before it.
  by_cases short : data.length < dosHeaderSize
  · rw [if_pos short]
    exact ⟨false, rfl, nofun, fun signed => absurd signed.header (Nat.not_le.mpr short)⟩
  have header : 64 ≤ data.length := Nat.not_lt.mp short
  rw [if_neg short, right 0 2 (by omega), number_storedOffset header]
  simp only [Option.bind_eq_bind, Option.bind_some]
  by_cases other : data.piece 0 2 ≠ dosMagic
  · rw [if_pos other]
    exact ⟨false, rfl, nofun, fun signed => absurd (piece_eq_magic.mpr signed.magic) other⟩
  have magic : data.piece 0 2 = dosMagic := not_ne_iff.mp other
  rw [if_neg other]
  by_cases cut : data.length < storedOffset data + 4
  · rw [if_pos cut]
    exact ⟨false, rfl, nofun, fun signed => absurd signed.inside (Nat.not_le.mpr cut)⟩
  rw [if_neg cut, right _ _ (Nat.not_lt.mp cut)]
  refine ⟨data.piece (storedOffset data) 4 == peSignature, rfl, ?_⟩
  rw [beq_iff_eq, piece_eq_signature]
  exact ⟨fun signature => ⟨header, piece_eq_magic.mp magic, signature⟩, Signed.signature⟩

/-- The pieces of the data are right. -/
lemma rightInside_piece (data : Bytes) :
    RightInside data fun offset count => some (data.piece offset count) :=
  fun _ _ _ => rfl

/-- The check takes the pieces out of range as far as they go. -/
lemma checkSignature?_eq (data : Bytes) :
    checkSignature? data = checkThrough data fun offset count => some (data.piece offset count) :=
  rfl

/-- The check accepts the data that carry a signature. -/
lemma looksLikeImage_iff : looksLikeImage data = true ↔ Signed data := by
  obtain ⟨answer, check, accepts⟩ := exists_answer (rightInside_piece data)
  rw [looksLikeImage, checkSignature?_eq, check]
  exact accepts

/-- The check rejects all other data. -/
lemma not_looksLikeImage_iff : looksLikeImage data = false ↔ ¬ Signed data := by
  rw [← looksLikeImage_iff, Bool.not_eq_true]

/-- The check has the same answer through any pieces that are right inside of the data. -/
lemma checkThrough_eq {piece? : Nat → Nat → Option Bytes} (right : RightInside data piece?) :
    checkThrough data piece? = some (looksLikeImage data) := by
  obtain ⟨answer, check, accepts⟩ := exists_answer right
  rw [check]
  exact congrArg some (Bool.eq_iff_iff.mpr (accepts.trans looksLikeImage_iff.symm))

/-! ## Shorter and longer data -/

/-- A signature is in a prefix as soon as the prefix has a full header and goes on to its end. -/
lemma Signed.take_iff (signed : Signed data) (n : Nat) :
    Signed (data.take n) ↔ max 64 (storedOffset data + 4) ≤ n := by
  rw [Nat.max_le]
  constructor
  · intro short
    have header : 64 ≤ n := short.header.trans (List.length_take_le n data)
    have signature := short.signature
    rw [storedOffset_take header, List.drop_take, List.prefix_take_iff] at signature
    have fits : 4 ≤ n - storedOffset data := signature.2
    omega
  · rintro ⟨header, long⟩
    have fits : 4 ≤ n - storedOffset data := by omega
    refine ⟨?_, List.prefix_take_iff.mpr ⟨signed.magic, le_trans (by decide) header⟩, ?_⟩
    · rw [List.length_take]
      exact Nat.le_min.mpr ⟨header, signed.header⟩
    · rw [storedOffset_take header, List.drop_take]
      exact List.prefix_take_iff.mpr ⟨signed.signature, fits⟩

/-- Whether a text starts longer data is settled by as many bytes as it has. -/
lemma prefix_append_iff {start : Bytes} (full : start.length ≤ data.length) (suffix : Bytes) :
    start <+: data ++ suffix ↔ start <+: data :=
  ⟨fun longer => List.prefix_of_prefix_length_le longer (List.prefix_append data suffix) full,
    fun shorter => shorter.trans (List.prefix_append data suffix)⟩

/-- Behind a full header only the bytes of the signature itself are left open. -/
lemma signed_append_iff (header : 64 ≤ data.length) (suffix : Bytes) :
    Signed (data ++ suffix) ↔ dosMagic <+: data ∧ peSignature <+:
      data.drop (storedOffset data) ++ suffix.drop (storedOffset data - data.length) := by
  have start : dosMagic.length ≤ data.length := le_trans (by decide) header
  rw [← prefix_append_iff start suffix, ← List.drop_append, ← storedOffset_append header suffix]
  refine ⟨fun signed => ⟨signed.magic, signed.signature⟩, fun both => ⟨?_, both.1, both.2⟩⟩
  rw [List.length_append]
  exact Nat.le_add_right_of_le header

/-- What follows signed data leaves them signed. -/
lemma Signed.append (signed : Signed data) (suffix : Bytes) : Signed (data ++ suffix) :=
  (signed_append_iff signed.header suffix).mpr
    ⟨signed.magic, signed.signature.trans (List.prefix_append _ _)⟩

/-- Data that hold all four bytes at the stored offset gain no signature from what follows. -/
lemma signed_of_append {suffix : Bytes} (header : 64 ≤ data.length)
    (inside : storedOffset data + 4 ≤ data.length) (longer : Signed (data ++ suffix)) :
    Signed data := by
  obtain ⟨magic, signature⟩ := (signed_append_iff header suffix).mp longer
  have whole : peSignature.length ≤ (data.drop (storedOffset data)).length := by
    rw [List.length_drop]
    exact Nat.le_sub_of_add_le' inside
  exact ⟨header, magic, (prefix_append_iff whole _).mp signature⟩

/-- Data that end before their signature can be completed if the part of it that is there is right. -/
lemma exists_signed_append_iff (header : 64 ≤ data.length) (magic : dosMagic <+: data)
    (cut : data.length < storedOffset data + 4) :
    (∃ suffix, Signed (data ++ suffix)) ↔ data.drop (storedOffset data) <+: peSignature := by
  constructor
  · rintro ⟨suffix, signed⟩
    have part : (data.drop (storedOffset data)).length ≤ peSignature.length := by
      rw [List.length_drop]
      exact Nat.sub_le_iff_le_add'.mpr cut.le
    exact List.prefix_of_prefix_length_le (List.prefix_append _ _)
      ((signed_append_iff header suffix).mp signed).2 part
  · rintro ⟨rest, completed⟩
    -- The gap up to the offset is filled with zeros.
    refine ⟨List.replicate (storedOffset data - data.length) 0 ++ rest,
      (signed_append_iff header _).mpr ⟨magic, [], ?_⟩⟩
    rw [List.append_nil, List.drop_left' List.length_replicate, completed]

/-- The check of a signature comes to its answer without reading out of range. What it accepts has a
shortest accepted prefix, up to the end of the full header and of the signature, and may be followed
by anything. What it refuses despite a full header lacks the first two bytes, ends before the
signature does, or has other bytes in its place. Only data that end too early can become accepted by
what follows, and they can exactly if the bytes at the offset so far agree with the signature. -/
theorem signature_decided (data : Bytes) :
    (checkSignature? data = some (looksLikeImage data) ∧
      ∀ piece?, RightInside data piece? → checkThrough data piece? = checkSignature? data) ∧
    (looksLikeImage data = true →
      (∀ n ≤ data.length,
        looksLikeImage (data.take n) = true ↔ max 64 (storedOffset data + 4) ≤ n) ∧
      ∀ suffix, looksLikeImage (data ++ suffix) = true) ∧
    (looksLikeImage data = false → 64 ≤ data.length →
      (¬ dosMagic <+: data ∨ data.length < storedOffset data + 4 ∨
        storedOffset data + 4 ≤ data.length ∧ data.piece (storedOffset data) 4 ≠ peSignature) ∧
      (¬ dosMagic <+: data → ∀ suffix, looksLikeImage (data ++ suffix) = false) ∧
      (storedOffset data + 4 ≤ data.length → ∀ suffix, looksLikeImage (data ++ suffix) = false) ∧
      (data.length < storedOffset data + 4 → dosMagic <+: data →
        ((∃ suffix, looksLikeImage (data ++ suffix) = true) ↔
          data.drop (storedOffset data) <+: peSignature))) := by
  simp only [looksLikeImage_iff, not_looksLikeImage_iff]
  have check : checkSignature? data = some (looksLikeImage data) :=
    checkThrough_eq (rightInside_piece data)
  refine ⟨⟨check, fun piece? right => (checkThrough_eq right).trans check.symm⟩,
    fun signed => ⟨fun n _ => signed.take_iff n, signed.append⟩, fun unsigned header =>
    ⟨?_, ?_, ?_, fun cut magic => exists_signed_append_iff header magic cut⟩⟩
  · by_contra none_
    simp only [not_or, not_not, not_and, Nat.not_lt] at none_
    obtain ⟨magic, inside, signature⟩ := none_
    exact unsigned ⟨header, magic, piece_eq_signature.mp (signature inside)⟩
  · intro other suffix longer
    exact other ((signed_append_iff header suffix).mp longer).1
  · intro inside suffix longer
    exact unsigned (signed_of_append header inside longer)

/-- A full header that stores an offset, given by its four bytes. -/
def headerTo (offset : Bytes) : Bytes :=
  dosMagic ++ List.replicate 58 0 ++ offset

/-- Pieces of some data, and none out of range. -/
def strictPiece? (data : Bytes) (offset count : Nat) : Option Bytes :=
  if offset + count ≤ data.length then some (data.piece offset count) else none

/-- A signature right behind the header is needed up to its last byte and read inside of the data; a
header that leads almost 4 GiB further can still be completed, and one with a wrong byte behind it
cannot. -/
theorem signature_decided_headers :
    (looksLikeImage (headerTo [0x40, 0, 0, 0] ++ peSignature) = true ∧
      RightInside (headerTo [0x40, 0, 0, 0] ++ peSignature)
        (strictPiece? (headerTo [0x40, 0, 0, 0] ++ peSignature)) ∧
      checkThrough (headerTo [0x40, 0, 0, 0] ++ peSignature)
        (strictPiece? (headerTo [0x40, 0, 0, 0] ++ peSignature)) = some true ∧
      ∀ n ≤ 68, looksLikeImage ((headerTo [0x40, 0, 0, 0] ++ peSignature).take n) = true ↔ 68 ≤ n) ∧
    (looksLikeImage (headerTo [0xFF, 0xFF, 0xFF, 0xFF]) = false ∧
      ∃ suffix, looksLikeImage (headerTo [0xFF, 0xFF, 0xFF, 0xFF] ++ suffix) = true) ∧
    looksLikeImage (headerTo [0x40, 0, 0, 0] ++ [0x51]) = false ∧
      ∀ suffix, looksLikeImage (headerTo [0x40, 0, 0, 0] ++ [0x51] ++ suffix) = false := by
  have complete : looksLikeImage (headerTo [0x40, 0, 0, 0] ++ peSignature) = true := by decide
  have distant : looksLikeImage (headerTo [0xFF, 0xFF, 0xFF, 0xFF]) = false := by decide
  have wrong : looksLikeImage (headerTo [0x40, 0, 0, 0] ++ [0x51]) = false := by decide
  have strict (data : Bytes) : RightInside data (strictPiece? data) :=
    fun _ _ inside => if_pos inside
  obtain ⟨⟨check, through⟩, accepted, -⟩ :=
    signature_decided (headerTo [0x40, 0, 0, 0] ++ peSignature)
  obtain ⟨-, -, -, completed⟩ :=
    (signature_decided (headerTo [0xFF, 0xFF, 0xFF, 0xFF])).2.2 distant (by decide)
  obtain ⟨-, -, -, open_⟩ :=
    (signature_decided (headerTo [0x40, 0, 0, 0] ++ [0x51])).2.2 wrong (by decide)
  refine ⟨⟨complete, strict _, ?_, (accepted complete).1⟩, ⟨distant, ?_⟩, wrong, ?_⟩
  · rw [through _ (strict _), check, complete]
  · exact (completed (by decide) (by decide)).mpr (by decide)
  · refine fun suffix => Bool.eq_false_iff.mpr fun longer => ?_
    have agrees := (open_ (by decide) (by decide)).mp ⟨suffix, longer⟩
    exact absurd agrees (by decide)

end PEInspect
