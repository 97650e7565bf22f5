import PEInspect.Annotations
import PEInspect.Config.Basic
import PEInspect.FileKey
import PEInspect.Image.Directory
import PEInspect.Metadata.Lookup
import PEInspect.Symbols

/-!
# Objects

The objects of a session and the references between them. Objects are shared and change over time:
an image can be owned by a module and be held by a file at once, so each kind has an arena, and a
reference is a place in it. Resources count how often they were closed.

Images and modules come in two forms. A parsed one stands on real data; a scripted one answers with
what it was told to and announces the calls that it gets.
-/

namespace PEInspect

open Document

/-- The kinds of objects. -/
inductive ObjectKind where
  | handle
  | mapping
  | metadata
  | image
  | context
  | module
  | resolver
  | file
  | store
  | config
  | loader
  deriving Repr, DecidableEq, Inhabited

/-- A reference to an object of a kind. -/
structure Ref (kind : ObjectKind) where
  index : Nat
  deriving Repr, DecidableEq, Inhabited

/-- The objects of one kind, in the order in which they were made. -/
structure Arena (kind : ObjectKind) (α : Type) where
  cells : List α := []
  deriving Repr, Inhabited

namespace Arena

variable {kind : ObjectKind} {α : Type}

/-- The number of objects made so far, which is the place of the next one. -/
def next (a : Arena kind α) : Ref kind :=
  ⟨a.cells.length⟩

/-- Adds an object. -/
def add (a : Arena kind α) (x : α) : Arena kind α :=
  ⟨a.cells ++ [x]⟩

/-- The object behind a reference. -/
def get [Inhabited α] (a : Arena kind α) (r : Ref kind) : α :=
  a.cells.getD r.index default

/-- Replaces the object behind a reference. -/
def set (a : Arena kind α) (r : Ref kind) (x : α) : Arena kind α :=
  ⟨a.cells.set r.index x⟩

/-- Changes all objects. -/
def map (a : Arena kind α) (f : α → α) : Arena kind α :=
  ⟨a.cells.map f⟩

/-- Changes the object behind a reference. -/
def change [Inhabited α] (a : Arena kind α) (r : Ref kind) (f : α → α) : Arena kind α :=
  a.set r (f (a.get r))

/-- The object that has been added stands behind the next reference. -/
@[simp] theorem get_add_next [Inhabited α] (a : Arena kind α) (x : α) :
    (a.add x).get a.next = x := by
  simp [add, get, next]

/-- Adding an object leaves the others where they are. -/
theorem get_add_of_lt [Inhabited α] (a : Arena kind α) (x : α) {r : Ref kind}
    (h : r.index < a.cells.length) : (a.add x).get r = a.get r := by
  simp [add, get, List.getElem?_append_left h]

/-- The object that has been set stands behind its reference. -/
theorem get_set_self [Inhabited α] (a : Arena kind α) (x : α) {r : Ref kind}
    (h : r.index < a.cells.length) : (a.set r x).get r = x := by
  simp [set, get, h]

/-- Setting an object leaves the others as they are. -/
theorem get_set_of_ne [Inhabited α] (a : Arena kind α) (x : α) {r s : Ref kind} (h : r ≠ s) :
    (a.set r x).get s = a.get s := by
  have hi : r.index ≠ s.index := fun e => h (by cases r; cases s; simp_all)
  simp [set, get, List.getElem?_set_ne hi]

end Arena

/-! ## Resources -/

/-- An open file. -/
structure FileHandle where
  path : String
  closings : Nat := 0
  deriving Repr, DecidableEq, Inhabited

/-- A file mapped into memory: what the map shows, and the place of the file as long as it stands on
the disk. -/
structure Mapping where
  content : Bytes
  file : Option Disk.Place := none
  closings : Nat := 0
  deriving Repr, DecidableEq, Inhabited

/-- What a map shows once its file is written anew: as much as before, with zeros behind the end of
the file. -/
def Mapping.refresh (m : Mapping) (content : Bytes) : Mapping :=
  let size := m.content.length
  { m with content := content.take size ++ List.replicate (size - content.length) 0 }

/-- Metadata that a reader holds open; whether its closing is announced. -/
structure OpenMetadata where
  content : Metadata := .headerless
  announced : Bool := false
  closings : Nat := 0
  deriving Repr, DecidableEq, Inhabited

/-! ## Images -/

/-- Where the bytes of an image are. -/
inductive View where
  | memory (content : Bytes)
  | mapped (map : Ref .mapping)
  deriving Repr, DecidableEq, Inhabited

/-- What stands behind an image. A parsed image loses its directories when it is closed. -/
inductive ImageBody where
  | scripted (directories : List DataDirectory) (content : Bytes)
  | parsed (directories : Option DirectoryTable) (view : View)
      (handle : Option (Ref .handle))
  deriving Repr, DecidableEq, Inhabited

/-- An opened image. -/
structure Image where
  fileName : Option String := some ""
  body : ImageBody := default
  deriving Repr, DecidableEq, Inhabited

/-- The name of an image's form. -/
def Image.form (i : Image) : String :=
  match i.body with
  | .scripted .. => "FakeImage"
  | .parsed .. => "LiefImage"

/-! ## Modules -/

/-- Resolves references from one module into others, with foreign types as they stand on disk
unless they are to be projected. -/
structure TokenResolver where
  resolver : Option (Ref .resolver) := none
  projects : Bool := false
  deriving Repr, DecidableEq, Inhabited

/-- The state that modules loaded together share. -/
structure ModuleContext where
  resolver : Option (Ref .resolver) := none
  tokens : TokenResolver := {}
  deriving Repr, DecidableEq, Inhabited

/-- The context for modules opened for browsing. -/
def ModuleContext.around (resolver : Option (Ref .resolver)) : ModuleContext :=
  ⟨resolver, ⟨resolver, false⟩⟩

/-- What a scripted module answers. -/
structure ModuleScript where
  name : String := "Lib.dll"
  assembly : Option Assembly := some { name := "Lib", version := [1, 0, 0, 0] }
  types : List (String × String) := []
  deriving Repr, DecidableEq, Inhabited

/-- What stands behind a module. -/
inductive ModuleBody where
  | scripted (script : ModuleScript)
  | parsed (metadata : Ref .metadata) (lookup : TypeLookup)
  deriving Repr, DecidableEq, Inhabited

/-- A managed module, with the image that it was read from and owns. -/
structure ManagedModule where
  location : Option String := some ""
  context : Option (Ref .context) := none
  symbols : Option SymbolData := none
  image : Option (Ref .image) := none
  body : ModuleBody := default
  deriving Repr, DecidableEq, Inhabited

/-- The name of a module's form. -/
def ManagedModule.form (m : ManagedModule) : String :=
  match m.body with
  | .scripted _ => "FakeModule"
  | .parsed .. => "DnfileModule"

/-- Finds the manifest modules of assemblies by name. -/
structure Resolver where
  modules : Entries String (Option (Ref .module)) := []
  deriving Repr, DecidableEq, Inhabited

/-! ## Annotations -/

/-- The kinds of annotation values: the plain ones, and any others by their names. The null kind
makes no values. -/
inductive AnnotationKind where
  | table
  | list
  | text
  | int
  | bool
  | float
  | bytes
  | custom (name : String)
  | null
  deriving Repr, DecidableEq, Inhabited

/-- The value of an annotation: a plain one, bytes, or an object of a named kind with a number. -/
inductive AnnotationValue where
  | plain (v : Value)
  | bytes (content : Bytes)
  | custom (name : String) (number : Nat)
  deriving Repr, Inhabited

/-- The annotations of a file: slots by label and kind. -/
abbrev AnnotationStore := Annotations String AnnotationKind AnnotationValue

/-! ## Loaded files -/

/-- The parsed representation of a file, chosen when the file is loaded. -/
inductive Backing where
  | unrecognized
  | image (image : Ref .image)
  | module (module : Ref .module)
  deriving Repr, DecidableEq, Inhabited

namespace Backing

/-- The name of a backing's kind. -/
def kind : Backing → String
  | .unrecognized => "UNRECOGNIZED"
  | .image _ => "IMAGE"
  | .module _ => "MODULE"

/-- The number of a backing's kind. -/
def kindNumber : Backing → Nat
  | .unrecognized => 1
  | .image _ => 2
  | .module _ => 3

end Backing

/-- A file as the rest of a tool holds it. -/
structure LoadedFile where
  backing : Backing := .unrecognized
  path : String := ""
  explicitKey : Option FileKey := none
  persistable : Bool := true
  autoLoaded : Bool := false
  annotations : AnnotationStore := {}
  shortName : String := ""
  deriving Repr, Inhabited

/-- The key of a file: the one it was given, or its path. -/
def LoadedFile.key (f : LoadedFile) : FileKey :=
  f.explicitKey.getD (.filename f.path)

/-- The one-line text of a file. -/
def LoadedFile.summary (f : LoadedFile) : String :=
  "LoadedFile(" ++ f.backing.kind ++ ", " ++ Text.quoted f.path ++ ")"

/-! ## Loaders -/

/-- How a loader opens images: by itself, or with a scripted image or refusal. -/
inductive ImageOpener where
  | standard
  | scripted (image : Option (Ref .image))
  deriving Repr, DecidableEq, Inhabited

/-- How a loader reads modules: by itself, or with a scripted module or refusal. -/
inductive ModuleOpener where
  | standard
  | scripted (module : Option ModuleScript)
  deriving Repr, DecidableEq, Inhabited

/-- Builds loaded files from paths and modules, with settings as a configuration gives them. -/
structure Loader where
  images : ImageOpener := .standard
  modules : ModuleOpener := .standard
  symbolExtension : Value := Setting.symbolExtension.fallback
  mappedIo : Value := Setting.mappedIo.fallback
  loadSymbols : Value := Setting.loadSymbols.fallback
  deriving Repr, Inhabited

end PEInspect
