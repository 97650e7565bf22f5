import PEInspect.Session.Basic
import PEInspect.World.Files

/-!
# Views

What a session shows of its objects. References appear as the names that the objects are reported
under.
-/

namespace PEInspect

/-- What is shown of an image. -/
structure ImageView where
  form : String
  fileName : Option String
  size : Nat
  mapped : Option Bool
  deriving Repr, DecidableEq, Inhabited

/-- What is shown of a module's context. -/
structure ContextView where
  resolver : Option String
  tokenResolver : Option String
  projects : Bool
  deriving Repr, DecidableEq, Inhabited

/-- What is shown of a module. -/
structure ModuleView where
  form : String
  name : String
  location : Option String
  assembly : Option Assembly
  image : Option String
  symbols : Option SymbolData
  context : Option ContextView
  deriving Repr, DecidableEq, Inhabited

/-- What is shown of a file. -/
structure FileView where
  info : Files.Info
  kind : String
  path : String
  shortName : String
  key : FileKey
  summary : String
  module : Option String
  image : Option String
  assembly : Option Assembly
  deriving Repr, DecidableEq, Inhabited

/-- What is shown of a file that was just loaded; for a module, also what loading gave it. -/
structure LoadedView where
  file : FileView
  module : Option ModuleView
  deriving Repr, DecidableEq, Inhabited

/-- The properties of a file. -/
structure PropertiesView where
  persistable : Bool
  autoLoaded : Bool
  shortName : String
  kind : Nat
  assembly : Option Assembly
  deriving Repr, DecidableEq, Inhabited

namespace Turn

/-- How an optional image is reported. -/
def imageLabel (r : Option (Ref .image)) : Turn (Option String) :=
  r.mapM fun i => label (.image i)

/-- How an optional module is reported. -/
def moduleLabel (r : Option (Ref .module)) : Turn (Option String) :=
  r.mapM fun m => label (.module m)

/-- How an optional resolver is reported. -/
def resolverLabel (r : Option (Ref .resolver)) : Turn (Option String) :=
  r.mapM fun x => label (.resolver x)

/-- Shows an image. -/
def viewImage (r : Ref .image) : Turn ImageView := do
  let i ← act (Action.image r)
  let size ← act (Images.size r)
  return ⟨i.form, i.fileName, size, Images.isMapped? i⟩

/-- Shows a context. -/
def viewContext (r : Ref .context) : Turn ContextView := do
  let c := (← get).world.contexts.get r
  return ⟨← resolverLabel c.resolver, ← resolverLabel c.tokens.resolver, c.tokens.projects⟩

/-- Shows a module. -/
def viewModule (r : Ref .module) : Turn ModuleView := do
  let m ← act (Action.managedModule r)
  let name ← act (Modules.name r)
  let assembly ← act (Modules.assembly r)
  let image ← imageLabel m.image
  let context ← m.context.mapM viewContext
  return ⟨m.form, name, m.location, assembly, image, m.symbols, context⟩

/-- Shows a file. -/
def viewFile (r : Ref .file) : Turn FileView := do
  let info ← act (Files.info r)
  let f ← act (Action.file r)
  let module ← moduleLabel (Files.moduleOf? f.backing)
  let image ← imageLabel (← act (Files.imageOf? f.backing))
  let assembly ← act (Files.assemblyOf? f.backing)
  return {
    info := info
    kind := f.backing.kind
    path := f.path
    shortName := f.shortName
    key := f.key
    summary := f.summary
    module := module
    image := image
    assembly := assembly }

/-- Shows a file that was just loaded. -/
def viewLoaded (r : Ref .file) : Turn LoadedView := do
  let file ← viewFile r
  let f ← act (Action.file r)
  return ⟨file, ← (Files.moduleOf? f.backing).mapM viewModule⟩

/-- Shows the properties of a file. -/
def viewProperties (r : Ref .file) : Turn PropertiesView := do
  let f ← act (Action.file r)
  let assembly ← act (Files.assemblyOf? f.backing)
  return ⟨f.persistable, f.autoLoaded, f.shortName, f.backing.kindNumber, assembly⟩

end Turn

end PEInspect
