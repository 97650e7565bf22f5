import PEInspect.Image.Bytes

/-!
# The signature of an executable image

A file looks like an executable image when it starts with `MZ` and the 32-bit offset at 0x3C leads
to the four bytes `PE\0\0`. The check reads with bounds and reports a reading beyond the end as a
missing answer, which never happens.
-/

namespace PEInspect

/-- The two bytes that every image starts with. -/
def dosMagic : Bytes := [0x4D, 0x5A]

/-- The four bytes before the image's headers. -/
def peSignature : Bytes := [0x50, 0x45, 0x00, 0x00]

/-- Where the offset of the signature is stored. -/
def signatureField : Nat := 0x3C

/-- The length of the header that stores it. -/
def dosHeaderSize : Nat := 64

/-- The check of a signature; missing if it were to read beyond the end. -/
def checkSignature? (data : Bytes) : Option Bool :=
  if data.length < dosHeaderSize then some false
  else if data.piece 0 2 ≠ dosMagic then some false
  else do
    let offset ← data.number? signatureField 4
    if data.length < offset + 4 then return false
    else return data.piece offset 4 == peSignature

/-- Whether a file looks like an executable image. -/
def looksLikeImage (data : Bytes) : Bool :=
  (checkSignature? data).getD false

end PEInspect
