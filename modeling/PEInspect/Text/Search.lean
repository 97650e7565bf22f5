/-!
# Search in text

Whether one text occurs inside another.
-/

namespace PEInspect.Text

/-- Whether `needle` occurs in a text as an unbroken piece. -/
def occursIn (needle : List Char) : List Char → Bool
  | [] => needle.isEmpty
  | c :: rest => needle.isPrefixOf (c :: rest) || occursIn needle rest

end PEInspect.Text
