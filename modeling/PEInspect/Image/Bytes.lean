/-!
# Reading from byte strings

Numbers and pieces at given offsets of a byte string. Reading a number checks its bounds; taking a
piece clips it at the end.
-/

namespace PEInspect

/-- The content of a file. -/
abbrev Bytes := List UInt8

namespace Bytes

/-- The number that bytes write, least significant first. -/
def littleEndian : List UInt8 → Nat
  | [] => 0
  | b :: rest => b.toNat + 256 * littleEndian rest

/-- The piece of at most `count` bytes at an offset. -/
def piece (data : Bytes) (offset count : Nat) : Bytes :=
  (data.drop offset).take count

/-- The number of `width` bytes at an offset, if all of them are there. -/
def number? (data : Bytes) (offset width : Nat) : Option Nat :=
  if offset + width ≤ data.length then some (littleEndian (piece data offset width)) else none

end Bytes

end PEInspect
