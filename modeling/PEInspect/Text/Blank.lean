/-!
# Blank characters

The class of characters that a display name treats as empty space, and the texts made of nothing
else. The class has 29 members: the ASCII spaces, the four information separators, the next-line
control and every other character with the Unicode white-space property.
-/

namespace PEInspect.Text

/-- White space of any script, the information separators included. -/
def isBlank (c : Char) : Bool :=
  let n := c.toNat
  (0x09 ≤ n && n ≤ 0x0D) || (0x1C ≤ n && n ≤ 0x20) || n == 0x85 || n == 0xA0 || n == 0x1680 ||
    (0x2000 ≤ n && n ≤ 0x200A) || n == 0x2028 || n == 0x2029 || n == 0x202F || n == 0x205F ||
    n == 0x3000

/-- A text in which nothing is visible; the empty text is one. -/
def allBlank (s : List Char) : Bool :=
  s.all isBlank

/-- The six blanks that a plain ASCII reader knows. -/
def isAsciiBlank (c : Char) : Bool :=
  let n := c.toNat
  (0x09 ≤ n && n ≤ 0x0D) || n == 0x20

/-- The empty text is blank. -/
@[simp] theorem allBlank_nil : allBlank [] = true := rfl

/-- A text is blank if its first character and its rest are. -/
@[simp] theorem allBlank_cons (c : Char) (s : List Char) :
    allBlank (c :: s) = (isBlank c && allBlank s) := rfl

/-- Two texts in a row are blank if both are. -/
@[simp] theorem allBlank_append (s t : List Char) :
    allBlank (s ++ t) = (allBlank s && allBlank t) := by
  simp [allBlank]

end PEInspect.Text
