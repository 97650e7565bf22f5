import PEInspect.World.Files
import PEInspect.World.Opening
import PEInspect.World.Parsing

/-!
# Loading

A loader makes a file of a path or of a module. What cannot be opened as an image becomes an
unrecognized file, an image without readable metadata stays an image, and a managed one becomes a
module, with the symbols that lie beside it.
-/

namespace PEInspect

namespace Loader

/-- A loader with the settings of a configuration. -/
def ofConfig (c : Config) (images : ImageOpener) (modules : ModuleOpener) : Loader where
  images := images
  modules := modules
  symbolExtension := c.loader.symbolExtension
  mappedIo := c.loader.mappedIo
  loadSymbols := c.loader.loadSymbols

end Loader

/-- The text of a target. -/
def Target.label : Target → String
  | .path text => text
  | .content bytes => Text.quotedBytes bytes

/-- The path that a target gives its file. A content is no path, unless it is empty. -/
def Target.fileName : Target → Except Failure String
  | .path text => .ok text
  | .content bytes => if bytes.isEmpty then .ok "" else .error .bytesSplitByText

namespace Loading

/-- A context around a resolver. -/
def freshContext (resolver : Option (Ref .resolver)) : Action (Ref .context) :=
  Action.addContext (ModuleContext.around resolver)

/-- Opens an image as a loader does. A scripted image takes the name of what was asked for. -/
def openImage (l : Loader) (target : Target) (mapped : Document.Value) :
    Action (Except Refusal (Ref .image)) := do
  match l.images with
  | .standard => Opening.openTarget target mapped.isTruthy
  | .scripted image =>
    Action.emit (.imageOpened target mapped)
    match image with
    | none => return .error ⟨"not an image", none⟩
    | some i =>
      Action.changeImage i fun x => { x with fileName := some target.label }
      return .ok i

/-- Parses a module as a loader does. -/
def parseModule (l : Loader) (image : Ref .image) (context : Ref .context) :
    Action (Except Refusal (Ref .module)) := do
  match l.modules with
  | .standard => Parsing.parseImage image (some context)
  | .scripted script =>
    let fileName := (← Action.image image).fileName
    Action.emit (.moduleParsed fileName)
    match script with
    | none => return .error ⟨"bad metadata", none⟩
    | some script =>
      return .ok (← Action.addModule {
        location := fileName
        context := some context
        image := some image
        body := .scripted script })

/-- Attaches the symbol file beside a location to a module that has none yet. -/
def attachFrom (l : Loader) (m : Ref .module) (location : String) : Action Unit := do
  let absent := Action.debug ("No symbol file for " ++ location)
  match ← Action.ofExcept (Symbols.candidateFor location l.symbolExtension) with
  | none => absent
  | some candidate =>
    if ← Action.ofExcept ((← get).disk.hasFile candidate) then
      match ← Modules.loadSymbols m candidate with
      | .error refusal =>
        Action.debug ("Ignoring symbols for " ++ location ++ ": " ++ refusal.text)
      | .ok _ => pure ()
    else absent

/-- Attaches the symbols of a module, unless it has no location or has symbols already. -/
def attachSymbols (l : Loader) (m : Ref .module) : Action Unit := do
  let module ← Action.managedModule m
  let location := module.location.getD ""
  if location.isEmpty || module.symbols.isSome then return
  attachFrom l m location

/-- Makes a file of a module. -/
def wrapModule (l : Loader) (m : Ref .module) (symbols : Bool) (key : Option FileKey) :
    Action (Ref .file) := do
  let f ← Files.ofModule m key true
  if symbols then attachSymbols l m
  return f

/-- Makes a file of an opened image. -/
def classify (l : Loader) (label : String) (image : Ref .image) (symbols : Bool)
    (resolver : Option (Ref .resolver)) (key : Option FileKey) : Action (Ref .file) := do
  if ← Images.isManaged image then
    let context ← freshContext resolver
    match ← parseModule l image context with
    | .ok m =>
      Action.debug (label ++ ": managed module " ++ Text.quoted (← Modules.name m))
      wrapModule l m symbols key
    | .error refusal =>
      Action.debug
        (label ++ ": CLR header present but metadata unreadable (" ++ refusal.text ++ ")")
      Files.ofImage image key true
  else
    Action.debug (label ++ ": native image")
    Files.ofImage image key true

/-- Makes a file of what is no image. -/
def unrecognized (target : Target) (key : Option FileKey) : Action (Ref .file) := do
  Files.ofPath (← Action.ofExcept target.fileName) key true

/-- Loads a path or a content. -/
def fromTarget (l : Loader) (target : Target) (mapped : Document.Value) (symbols : Bool)
    (resolver : Option (Ref .resolver)) (key : Option FileKey) : Action (Ref .file) := do
  match ← openImage l target mapped with
  | .error refusal =>
    Action.debug (target.label ++ ": unrecognized (" ++ refusal.text ++ ")")
    unrecognized target key
  | .ok image => classify l target.label image symbols resolver key

/-- Loads whatever a caller gives. -/
def fromSource (l : Loader) (source : ImageSource) (mapped : Document.Value) (symbols : Bool)
    (resolver : Option (Ref .resolver)) (key : Option FileKey) : Action (Ref .file) :=
  match source with
  | .target target => fromTarget l target mapped symbols resolver key
  | .other kind => throw (.notPath kind)

/-- Loads with the loader's own settings. -/
def byDefault (l : Loader) (source : ImageSource) (resolver : Option (Ref .resolver))
    (key : Option FileKey) : Action (Ref .file) :=
  fromSource l source l.mappedIo l.loadSymbols.isTruthy resolver key

/-- Wraps a module that a caller has parsed; it gets a fresh context. -/
def fromModule (l : Loader) (m : Ref .module) (symbols : Bool)
    (resolver : Option (Ref .resolver)) (key : Option FileKey) : Action (Ref .file) := do
  let context ← freshContext resolver
  Action.changeModule m fun x => { x with context := some context }
  wrapModule l m symbols key

end Loading

end PEInspect
