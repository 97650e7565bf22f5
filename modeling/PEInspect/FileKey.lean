import PEInspect.Digest.Hex
import PEInspect.Digest.Sha256

/-!
# File keys

What tells loaded files apart: the path under which a file was asked for, or the digest of its
content.
-/

namespace PEInspect

/-- The identity of a loaded file. -/
inductive FileKey where
  | filename (path : String)
  | content (sha256 : String)
  deriving Repr, DecidableEq, Inhabited

/-- The key of a content. -/
def FileKey.ofBytes (content : List UInt8) : FileKey :=
  .content (Digest.hexText (Digest.sha256 content))

end PEInspect
