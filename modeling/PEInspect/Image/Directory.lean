import PEInspect.Image.Bytes

/-!
# Data directories

The entries of an image's directory table and the test for a managed image: the directory of the
runtime header has to point somewhere and to be large enough for such a header.
-/

namespace PEInspect

/-- The place and the size of a piece of an image. -/
structure DataDirectory where
  rva : Int := 0
  size : Int := 0
  deriving Repr, DecidableEq, Inhabited

/-- The directory table of an image. The tables of the header reader are silent: asking them for an
entry in front of the first one fails without a message. -/
structure DirectoryTable where
  entries : List DataDirectory
  silent : Bool := false
  deriving Repr, DecidableEq, Inhabited

/-- The index of the directory of the runtime header. -/
def runtimeDirectoryIndex : Nat := 14

/-- The size of a runtime header. -/
def runtimeHeaderSize : Nat := 0x48

/-- Whether a runtime directory makes its image a managed one. -/
def DataDirectory.isManaged (d : DataDirectory) : Bool :=
  d.rva != 0 && decide ((runtimeHeaderSize : Int) ≤ d.size)

/-- What a reader of headers is given: a path with the content of its file, or the content alone. -/
inductive HeaderSource where
  | path (name : String) (content : Bytes)
  | memory (content : Bytes)
  deriving Repr, DecidableEq, Inhabited

/-- The content behind a source. -/
def HeaderSource.content : HeaderSource → Bytes
  | .path _ content => content
  | .memory content => content

/-- What a reader of headers answers: it sees no image, it fails, or it finds the directories. -/
inductive HeaderOutcome where
  | rejected
  | raised (text : String)
  | found (directories : DirectoryTable)
  deriving Repr, DecidableEq, Inhabited

end PEInspect
