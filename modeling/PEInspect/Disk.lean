import PEInspect.Document.Entries
import PEInspect.Failure
import PEInspect.Image.Bytes
import PEInspect.Path.Basic
import PEInspect.Text.Utf8

/-!
# The disk

The files, directories and links of a file system, with a working directory in it. A path is
followed name by name, from the root or from the working directory: `..` leads to the directory
above, and stays at the root; a link is replaced by the path that it holds. On the way, every place
has to be a directory that may be searched, no name may be too long, and not too many links may be
in the way. A file is written together with the directories above it. A system that fails for other
reasons, such as a broken device or a lack of memory, is left out.
-/

namespace PEInspect

/-- What stands at a place of the disk. A file can be barred from reading, and a directory from
being searched. -/
inductive Node where
  | file (content : Bytes) (readable : Bool := true)
  | directory (searchable : Bool := true)
  | link (target : List Char)
  deriving Repr, DecidableEq, Inhabited

/-- The content that opening a node gives. -/
def Node.content : Node → Except SystemError Bytes
  | .file content readable => if readable then .ok content else .error .denied
  | .directory _ => .error .isDirectory
  | .link _ => .error .loop

/-- The nodes of a file system and its working directory, each by the names that lead to it from the
root. -/
structure Disk where
  nodes : Document.Entries (List (List Char)) Node := []
  current : List (List Char) := []
  deriving Repr, Inhabited

namespace Disk

/-- A place on the disk, by the names that lead to it from the root. -/
abbrev Place := List (List Char)

/-- The node at a place. The working directory and the directories above it are always there; a
listing says no more of them than whether they may be searched. -/
def nodeAt (disk : Disk) (place : Place) : Except SystemError Node :=
  match disk.nodes.lookup place, place.isPrefixOf disk.current with
  | some (.directory searchable), _ => .ok (.directory searchable)
  | _, true => .ok .directory
  | some node, false => .ok node
  | none, false => .error .missing

/-- The number of bytes that a name takes. -/
def byteLength (s : List Char) : Nat :=
  (Text.encode s).length

/-- Where a component leads from a directory. -/
def follow (place : Place) (component : List Char) : Except SystemError Place :=
  if component = ['.'] then .ok place
  else if component = ['.', '.'] then .ok place.dropLast
  else if 255 < byteLength component then .error .nameTooLong
  else .ok (place ++ [component])

/-- One step of a walk, which leaves a directory. Only an empty component is no reason to search
it. -/
def step (disk : Disk) (place : Place) (component : List Char) : Except SystemError Place :=
  match disk.nodeAt place with
  | .error e => .error e
  | .ok (.directory searchable) =>
    if component.isEmpty then .ok place
    else if searchable then follow place component
    else .error .denied
  | .ok _ => .error .notDirectory

/-- Where the components of a text are followed from: the root, or a place. -/
def startOf (place : Place) : List Char → Place
  | '/' :: _ => []
  | _ => place

/-- How far components lead: to a place, or to a link in a directory with components behind it. -/
inductive Passage where
  | arrived (place : Place)
  | link (place : Place) (target : List Char) (rest : List (List Char))
  deriving Repr, DecidableEq, Inhabited

/-- Follows components up to the first link. -/
def advance (disk : Disk) (place : Place) : List (List Char) → Except SystemError Passage
  | [] => .ok (.arrived place)
  | component :: rest =>
    match disk.step place component with
    | .error e => .error e
    | .ok next =>
      match disk.nodeAt next with
      | .ok (.link target) => .ok (.link place target rest)
      | _ => disk.advance next rest

/-- Follows components and so many links. What stands at the end, if anything, is left open. -/
def walk (disk : Disk) (links : Nat) (place : Place) (components : List (List Char)) :
    Except SystemError Place :=
  match disk.advance place components with
  | .error e => .error e
  | .ok (.arrived place) => .ok place
  | .ok (.link place target rest) =>
    match links with
    | 0 => .error .loop
    | links + 1 => disk.walk links (startOf place target) (Path.splitSlash target ++ rest)

/-- The number of links that the system follows for one path. -/
def maxLinks : Nat := 40

/-- The place that a path text leads to. -/
def locate (disk : Disk) (path : List Char) : Except SystemError Place :=
  if 4096 ≤ byteLength path then .error .nameTooLong
  else disk.walk maxLinks (startOf disk.current path) (Path.splitSlash path)

/-- The node that a path text leads to. -/
def find (disk : Disk) (path : List Char) : Except SystemError Node :=
  match disk.locate path with
  | .error e => .error e
  | .ok place => disk.nodeAt place

/-- Whether a path text holds the character that ends texts of the system. -/
def hasNul (path : List Char) : Bool :=
  path.contains '\x00'

/-- The content of the file at a path. -/
def read (disk : Disk) (path : Path) : Except Failure Bytes :=
  if hasNul path.write then .error .nulInPath
  else match (disk.find path.write).bind Node.content with
    | .ok content => .ok content
    | .error e => .error (.system e path.toString)

/-- The node at a path, if there is one. Only errors that leave it open whether there is one are
failures. -/
def probe (disk : Disk) (path : Path) : Except Failure (Option Node) :=
  if hasNul path.write then .ok none
  else match disk.find path.write with
    | .ok node => .ok (some node)
    | .error e => if e.meansAbsence then .ok none else .error (.system e path.toString)

/-- Whether a path leads to anything. -/
def has (disk : Disk) (path : Path) : Except Failure Bool :=
  (disk.probe path).map Option.isSome

/-- Whether a path leads to a file. -/
def hasFile (disk : Disk) (path : Path) : Except Failure Bool :=
  (disk.probe path).map fun
    | some (.file ..) => true
    | _ => false

/-- Puts a node at a place and directories above it. -/
def put (disk : Disk) (place : Place) (node : Node) : Disk :=
  let parents := (List.range place.length).map fun i => place.take i
  let nodes := (parents.filter (· ≠ [])).foldl
    (fun nodes p => Document.Entries.insertNew nodes p .directory) disk.nodes
  { disk with nodes := Document.Entries.insert nodes place node }

/-- The place that a path leads to, if it can be followed. -/
def placeOf? (disk : Disk) (path : Path) : Option Place :=
  (disk.locate path.write).toOption

/-- The directory above a path. -/
def parent (path : Path) : Path :=
  { path with parts := path.parts.dropLast }

/-- The place of the entry that a path names in its directory, be it a link or not. -/
def entry (disk : Disk) (path : Path) : Except SystemError Place :=
  match disk.locate (parent path).write with
  | .error e => .error e
  | .ok place => disk.step place path.name

/-- Makes sure that directories can stand at a path and above it. -/
def checkDirectories (disk : Disk) (path : Path) : Except Failure Unit :=
  match disk.find path.write with
  | .ok (.directory _) => .ok ()
  | .ok _ => .error (.system .present path.toString)
  | .error .missing => .ok ()
  | .error e => .error (.system e path.toString)

/-- The place for a new file at a path: where it leads to, or would lead to if the directories above
it stood. -/
def newPlace (disk : Disk) (path : Path) : Except SystemError Place :=
  match disk.locate path.write with
  | .ok place => .ok place
  | .error _ => path.parts.foldlM follow (startOf disk.current path.write)

/-- Writes the file at a path. -/
def write (disk : Disk) (path : Path) (content : Bytes) : Except Failure Disk := do
  if hasNul path.write then throw .nulInPath
  checkDirectories disk (parent path)
  match disk.find path.write, disk.newPlace path with
  | .ok (.directory _), _ => throw (.system .isDirectory path.toString)
  | .ok _, .ok place => return disk.put place (.file content)
  | .error .missing, .ok place => return disk.put place (.file content)
  | .error e, _ => throw (.system e path.toString)
  | _, .error e => throw (.system e path.toString)

/-- Removes the file at a path; a link to it is removed in its stead. -/
def remove (disk : Disk) (path : Path) : Except Failure Disk := do
  if hasNul path.write then throw .nulInPath
  match disk.find path.write, disk.entry path with
  | .ok (.directory _), _ => throw (.system .isDirectory path.toString)
  | .ok _, .ok place => return { disk with nodes := Document.Entries.erase disk.nodes place }
  | .error e, _ => throw (.system e path.toString)
  | _, .error e => throw (.system e path.toString)

end Disk

end PEInspect
