/-!
# Paths

A path is a root and a list of names. Reading a path drops empty and `.` components and keeps `..`;
exactly two leading slashes are a root of their own, any other number of them is the plain root.
Writing puts one slash between names, and a path without root and names is written `.`.
-/

namespace PEInspect

/-- How a path starts. -/
inductive Root where
  | relative
  | slash
  | doubleSlash
  deriving Repr, DecidableEq, Inhabited

/-- A root and the names below it. -/
structure Path where
  root : Root := .relative
  parts : List (List Char) := []
  deriving Repr, DecidableEq, Inhabited

namespace Path

/-- The components of a text between slashes; there is one more than there are slashes. -/
def splitSlash : List Char → List (List Char)
  | [] => [[]]
  | c :: rest =>
    if c = '/' then [] :: splitSlash rest
    else match splitSlash rest with
      | [] => [[c]]
      | first :: others => (c :: first) :: others

/-- Names with one slash between neighbours. -/
def joinSlash : List (List Char) → List Char
  | [] => []
  | [p] => p
  | p :: rest => p ++ '/' :: joinSlash rest

/-- A component that names something: neither empty nor the directory itself. -/
def isName (component : List Char) : Bool :=
  !(component.isEmpty || component == ['.'])

/-- The root of a text, from its leading slashes. -/
def rootOf : List Char → Root
  | '/' :: '/' :: '/' :: _ => .slash
  | '/' :: '/' :: _ => .doubleSlash
  | '/' :: _ => .slash
  | _ => .relative

/-- Reads a path. -/
def read (s : List Char) : Path :=
  ⟨rootOf s, (splitSlash s).filter isName⟩

/-- The text of a root. -/
def Root.chars : Root → List Char
  | .relative => []
  | .slash => ['/']
  | .doubleSlash => ['/', '/']

/-- Writes a path. -/
def write (p : Path) : List Char :=
  match Root.chars p.root ++ joinSlash p.parts with
  | [] => ['.']
  | s => s

/-- The path that a text names. -/
def ofString (s : String) : Path :=
  read s.toList

/-- The text of a path. -/
def toString (p : Path) : String :=
  String.ofList p.write

/-- A text with its path in normal form. -/
def normalize (s : String) : String :=
  (ofString s).toString

/-- The last name of a path; a path that is only a root has none. -/
def name (p : Path) : List Char :=
  p.parts.getLast?.getD []

/-- What stands before and after the last dot of a name. -/
def splitLastDot (s : List Char) : Option (List Char × List Char) :=
  match s with
  | [] => none
  | c :: rest =>
    match splitLastDot rest with
    | some (before, after) => some (c :: before, after)
    | none => if c = '.' then some ([], rest) else none

/-- A name without its extension. A dot at the start or at the end starts no extension. -/
def stemOf (name : List Char) : List Char :=
  match splitLastDot name with
  | some (before, after) => if before.isEmpty || after.isEmpty then name else before
  | none => name

/-- The last name of a path without its extension. -/
def stem (p : Path) : List Char :=
  stemOf p.name

/-- Whether a text can take the place of a name: it is one name once it is read as a path, and it
does not end in a slash. It may hold a slash before a dot that reading drops. -/
def acceptsName (s : List Char) : Bool :=
  s.getLast? != some '/' && (read s).root == .relative && (read s).parts.length == 1

/-- The path with another last name, if the text can be one. -/
def withName? (p : Path) (s : List Char) : Option Path :=
  if acceptsName s then some ⟨p.root, p.parts.dropLast ++ [s]⟩ else none

end Path

end PEInspect
