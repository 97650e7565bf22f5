import PEInspect.Session.Requests

/-!
# Commands on files

Files over images, modules or nothing, what they are built over, their paths and their groups; and
how files, images and modules are closed and written in one line.
-/

namespace PEInspect

open Document

namespace Turn

/-- Builds a file over what is named. -/
def buildFrom (origin : FileOrigin) (key : Option FileKey) (persistable : Bool) :
    Turn (Ref .file) := do
  match origin with
  | .path text => act (Files.ofPath text key persistable)
  | .image name => do
    let i ← image name "file_name"
    act (Files.ofImage i key persistable)
  | .module name => do
    let m ← managedModule name "enable_type_lookup_cache"
    act (Files.ofModule m key persistable)

/-- Builds a file. -/
def buildFile (id : String) (origin : FileOrigin) (request : KeyRequest) (persistable : Bool) :
    Turn Reply := do
  let key ← requestedKey request
  let r ← buildFrom origin key persistable
  register id (.file r)
  return .file (← viewFile r)

/-- The image of an object that has one, a file or a module. -/
def imageIn (o : Object) : Turn (Option (Ref .image)) := do
  match o with
  | .file r => act (do Files.imageOf? (← Action.file r).backing)
  | .module r => act (Files.imageOf? (.module r))
  | o => withoutMember o "image"

/-- The module of an object that has one, a file. -/
def moduleIn (o : Object) : Turn (Option (Ref .module)) := do
  match o with
  | .file r => return Files.moduleOf? (← act (Action.file r)).backing
  | o => withoutMember o "module"

/-- Gives a name to the image or the module of an object. -/
def adopt (id ownerName : String) (wanted : Part) : Turn Reply := do
  let owner ← object ownerName
  let found ← match wanted with
    | .image => do pure ((← imageIn owner).map Object.image)
    | .module => do pure ((← moduleIn owner).map Object.module)
  match found with
  | none => return .reference none
  | some o =>
    register id o
    return .reference (some (← label o))

/-- Marks a file as loaded for another one, or not; other objects take no notice. -/
def setAutoLoaded (name : String) (value : Bool) : Turn Reply := do
  match ← object name with
  | .file r => act (Files.setAutoLoaded r value)
  | _ => pure ()
  return .nothing

/-- Whether a failure says that a path may not be set. -/
def isPathRefusal : Failure → Bool
  | .pathAlreadySet | .pathEmpty => true
  | _ => false

/-- Sets the path of a file. -/
def setPath (fileName path : String) : Turn Reply := do
  let r ← file fileName "short_name"
  let result ← act (Action.attempt (Files.setPath r path))
  let f ← act (Action.file r)
  match result with
  | .ok () => return .path f.path f.shortName (.ok f.key)
  | .error e =>
    if isPathRefusal e then return .path f.path f.shortName (.error e) else throw (.failure e)

/-- Closes an object. Only files can be disposed of by that name. -/
def close (name : String) (disposing : Bool) : Turn Reply := do
  match ← object name, disposing with
  | .file r, _ => act (Files.close r)
  | .image r, false => act (Images.close r)
  | .module r, false => act (Modules.close r)
  | o, true => withoutMember o "dispose"
  | o, false => withoutMember o "close"
  return .nothing

/-- Writes an object in one line. -/
def summarize (name : String) : Turn Reply := do
  match ← object name with
  | .image r => return .text (Images.summary (← act (Action.image r)))
  | .module r => return .text (← act (Modules.summary r))
  | .file r => return .text (← act (Action.file r)).summary
  | _ => throw (.unknown name)

/-- Puts a name into the group of its key, or starts a group with it. -/
def join (groups : Entries FileKey (List String)) (key : FileKey) (name : String) :
    Entries FileKey (List String) :=
  Entries.insert groups key ((groups.lookup key).getD [] ++ [name])

/-- Groups files by their keys. -/
def group (names : List String) : Turn Reply := do
  let keyed ← names.mapM fun name => return (name, (← act (Action.file (← file name "key"))).key)
  return .groups ((keyed.foldl (fun groups e => join groups e.2 e.1) []).map (·.2))

end Turn

end PEInspect
