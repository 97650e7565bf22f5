import PEInspect.Text.Quoted

/-!
# Hexadecimal text of bytes

Two lower-case digits for each byte.
-/

namespace PEInspect.Digest

/-- The hexadecimal text of a byte string. -/
def hexText (bytes : List UInt8) : String :=
  String.ofList (bytes.flatMap fun b => Text.hexDigits 2 b.toNat)

end PEInspect.Digest
