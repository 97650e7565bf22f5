import PEInspect.ShortName
import PEInspect.World.Modules

/-!
# Loaded files

How a loaded file is built over each kind of backing, its views, its summary, its path, which can be
given once, and how it is closed. The file owns its image or module.
-/

namespace PEInspect

namespace Files

/-- The module behind a backing. -/
def moduleOf? : Backing → Option (Ref .module)
  | .module m => some m
  | _ => none

/-- The image behind a backing: its own, or the one of its module. -/
def imageOf? (backing : Backing) : Action (Option (Ref .image)) := do
  match backing with
  | .unrecognized => return none
  | .image i => return some i
  | .module m => return (← Action.managedModule m).image

/-- The assembly behind a backing. -/
def assemblyOf? (backing : Backing) : Action (Option Assembly) := do
  match moduleOf? backing with
  | none => return none
  | some m => Modules.assembly m

/-- The name for a file whose path gives none. -/
def defaultName (backing : Backing) : Action String := do
  match moduleOf? backing with
  | none => return ""
  | some m => Modules.name m

/-- Builds a file. -/
def build (backing : Backing) (path : String) (key : Option FileKey) (persistable : Bool) :
    Action (Ref .file) := do
  let default ← defaultName backing
  Action.addFile {
    backing := backing
    path := path
    explicitKey := key
    persistable := persistable
    shortName := shortName path default }

/-- Builds a file that has only its path. -/
def ofPath (path : String) (key : Option FileKey) (persistable : Bool) : Action (Ref .file) :=
  build .unrecognized path key persistable

/-- Builds a file over an image. -/
def ofImage (image : Ref .image) (key : Option FileKey) (persistable : Bool) :
    Action (Ref .file) := do
  let path := (← Action.image image).fileName.getD ""
  build (.image image) path key persistable

/-- Builds a file over a module and switches the module's type index on. -/
def ofModule (m : Ref .module) (key : Option FileKey) (persistable : Bool) :
    Action (Ref .file) := do
  Modules.switchLookup m true
  let path := (← Action.managedModule m).location.getD ""
  build (.module m) path key persistable

/-- Gives a file its path. That works once, for a file without a path, and the path has to say
something. -/
def setPath (r : Ref .file) (path : String) : Action Unit := do
  let f ← Action.file r
  if f.path ≠ "" then throw .pathAlreadySet
  if path = "" then throw .pathEmpty
  Action.changeFile r fun f => { f with path := path }
  let default ← defaultName f.backing
  Action.changeFile r fun f => { f with shortName := shortName path default }

/-- Marks a file as loaded for another one, or not. -/
def setAutoLoaded (r : Ref .file) (value : Bool) : Action Unit :=
  Action.changeFile r fun f => { f with autoLoaded := value }

/-- The facts about a file that a list of files shows. -/
structure Info where
  path : String
  name : String
  kind : String
  autoLoaded : Bool
  persistable : Bool
  module : Option String
  assembly : Option String
  hasSymbols : Bool
  imageSize : Nat
  deriving Repr, DecidableEq, Inhabited

/-- Collects the facts about a file. -/
def info (r : Ref .file) : Action Info := do
  let f ← Action.file r
  let assembly ← assemblyOf? f.backing
  let image ← imageOf? f.backing
  let name ← (moduleOf? f.backing).mapM Modules.name
  let hasSymbols ← (moduleOf? f.backing).mapM fun m =>
    return (← Action.managedModule m).symbols.isSome
  let size ← image.mapM Images.size
  return {
    path := f.path
    name := f.shortName
    kind := f.backing.kind
    autoLoaded := f.autoLoaded
    persistable := f.persistable
    module := name
    assembly := assembly.map Assembly.fullName
    hasSymbols := hasSymbols.getD false
    imageSize := size.getD 0 }

/-- Closes what a file owns. -/
def close (r : Ref .file) : Action Unit := do
  let f ← Action.file r
  match f.backing with
  | .unrecognized => pure ()
  | .image i =>
    Action.debug ("Closing image " ++ f.path)
    Images.close i
  | .module m =>
    Action.debug ("Closing module " ++ if f.path.isEmpty then f.shortName else f.path)
    Modules.close m

end Files

end PEInspect
