import PEInspect.Path.Basic
import PEInspect.Text.Blank

/-!
# Display names

The name under which a file is shown, from its path. The last component without its extension is
tried first, then the last component, then the whole path unless it names a directory, then a
default. Both slashes separate components here.
-/

namespace PEInspect

namespace ShortName

/-- Both slashes end a component of a display path. -/
def isSeparator (c : Char) : Bool :=
  c = '/' || c = '\\'

/-- What follows the last separator. -/
def lastComponent (path : List Char) : List Char :=
  (path.reverse.takeWhile fun c => !isSeparator c).reverse

/-- A name without its extension. Leading dots start no extension: what is cut off needs something
other than dots before it. -/
def stem (name : List Char) : List Char :=
  match Path.splitLastDot name with
  | some (before, _) => if before.all (· == '.') then name else before
  | none => name

/-- The display name of a path, over characters. -/
def ofChars (path default : List Char) : List Char :=
  let name := lastComponent path
  if !Text.allBlank (stem name) then stem name
  else if !Text.allBlank name then name
  else match path.getLast? with
    | some c => if isSeparator c then default else path
    | none => default

end ShortName

/-- The display name of a path. -/
def shortName (path default : String) : String :=
  String.ofList (ShortName.ofChars path.toList default.toList)

end PEInspect
