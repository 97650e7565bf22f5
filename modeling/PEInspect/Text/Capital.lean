/-!
# Capital letters

Upper-casing as far as it can produce ASCII, and lower-casing of ASCII letters: enough to compare a
text, whatever its case, with a keyword of ASCII letters. Some letters beyond ASCII have ASCII
capitals, and a ligature has several.
-/

namespace PEInspect.Text

/-- The letters beyond ASCII whose capitals are ASCII letters, with these capitals. -/
def asciiCapitals : List (Char × List Char) := [
  ('ß', ['S', 'S']), ('ı', ['I']), ('ſ', ['S']), ('ﬀ', ['F', 'F']), ('ﬁ', ['F', 'I']),
  ('ﬂ', ['F', 'L']), ('ﬃ', ['F', 'F', 'I']), ('ﬄ', ['F', 'F', 'L']), ('ﬅ', ['S', 'T']),
  ('ﬆ', ['S', 'T'])]

/-- The capitals of one letter where they are ASCII; any other character is kept. -/
def capitalsOf (c : Char) : List Char :=
  if c.isLower then [c.toUpper] else (asciiCapitals.lookup c).getD [c]

/-- A text in capitals; it equals an ASCII keyword exactly when the text is a spelling of it. -/
def capitals (s : String) : String :=
  String.ofList (s.toList.flatMap capitalsOf)

/-- A text with its ASCII letters in lower case. -/
def lowered (s : String) : String :=
  String.ofList (s.toList.map Char.toLower)

end PEInspect.Text
