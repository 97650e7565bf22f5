import PEInspect.Disk
import PEInspect.Document.Value
import PEInspect.Notice

/-!
# Symbol files

The symbols of a module stand in a file of their own beside it, with the same base name and another
extension. This module finds the candidate, recognises the two container formats by their first
bytes, and reads a file into symbol data.
-/

namespace PEInspect

/-- The container formats of symbol files. -/
inductive SymbolFormat where
  | portable
  | windows
  deriving Repr, DecidableEq, Inhabited

/-- The symbols of a module: the file they come from, its format and its content. -/
structure SymbolData where
  path : Path
  format : SymbolFormat
  content : Bytes := []
  deriving Repr, DecidableEq, Inhabited

namespace SymbolFormat

/-- The name of a format in notices. -/
def name : SymbolFormat → String
  | .portable => "portable"
  | .windows => "windows"

/-- The bytes that a portable symbol file starts with. -/
def portableMagic : Bytes := [0x42, 0x53, 0x4A, 0x42]

/-- The bytes that a Windows symbol file of the present version starts with. -/
def windowsMagic : Bytes :=
  Text.encode "Microsoft C/C++ MSF 7.00\r\n\x1aDS\x00\x00\x00".toList

/-- The bytes that a Windows symbol file of the former version starts with. -/
def formerWindowsMagic : Bytes :=
  Text.encode "Microsoft C/C++ program database 2.00\r\n\x1aJG\x00\x00".toList

/-- The format that the first bytes of a file show. -/
def detect? (content : Bytes) : Option SymbolFormat :=
  if portableMagic.isPrefixOf content then some .portable
  else if windowsMagic.isPrefixOf content || formerWindowsMagic.isPrefixOf content then
    some .windows
  else none

end SymbolFormat

namespace Symbols

/-- The candidate for the symbol file of a module at a location: the last name with its extension
replaced. A location without a last name has no candidate. -/
def candidate (location extension : String) : Except Failure (Option Path) :=
  if location.isEmpty then .ok none
  else
    let path := Path.ofString location
    if path.name = [] then .ok none
    else
      let name := path.stem ++ extension.toList
      match path.withName? name with
      | some p => .ok (some p)
      | none => .error (.invalidName (String.ofList name))

/-- The candidate for an extension as a setting gives it; it has to be a text once there is a name
to put it after. -/
def candidateFor (location : String) (extension : Document.Value) :
    Except Failure (Option Path) :=
  match extension with
  | .text s => candidate location s
  | v =>
    if location.isEmpty || (Path.ofString location).name = [] then .ok none
    else .error (.notText v.qualifiedKind)

/-- Reads a symbol file. A path that the file system turns down and a file of no known format are
refused; a path that cannot even be asked for is a failure. -/
def read (disk : Disk) (path : Path) : Report (Except Refusal SymbolData) := do
  match disk.read path with
  | .error (.system e p) =>
    return .error ⟨"cannot read symbol file " ++ path.toString, some (.system e p)⟩
  | .error f => throw f
  | .ok content =>
    match SymbolFormat.detect? content with
    | none => return .error ⟨"unrecognized symbol file format: " ++ path.toString, none⟩
    | some format =>
      Report.note .debug ("Read " ++ format.name ++ " symbols from " ++ path.toString)
      return .ok ⟨path, format, content⟩

end Symbols

end PEInspect
