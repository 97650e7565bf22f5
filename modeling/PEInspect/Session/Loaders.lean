import PEInspect.Session.Configs
import PEInspect.Session.Requests

/-!
# Commands on loaders

Loaders, which are made with given settings or from a configuration, and the files that they load.
-/

namespace PEInspect

open Document

namespace Turn

/-- The image opener of a choice. -/
def opener (choice : ImageChoice) : Turn ImageOpener := do
  match choice with
  | .standard => return .standard
  | .scripted name => return .scripted (← part Object.image? name)

/-- A loader with settings by their keys. -/
def withSettings (l : Loader) (settings : Table) : Loader :=
  { l with
    symbolExtension := (settings.lookup Setting.symbolExtension.key).getD l.symbolExtension
    mappedIo := (settings.lookup Setting.mappedIo.key).getD l.mappedIo
    loadSymbols := (settings.lookup Setting.loadSymbols.key).getD l.loadSymbols }

/-- Names a loader and shows it. -/
def introduceLoader (id : String) (l : Loader) : Turn Reply := do
  let r ← modifyGet fun s =>
    (s.world.loaders.next, { s with world := { s.world with loaders := s.world.loaders.add l } })
  register id (.loader r)
  showing [l.symbolExtension, l.mappedIo, l.loadSymbols] (.loader l)

/-- Makes a loader, from a configuration or with given settings. -/
def addLoader (id : String) (images : ImageChoice) (modules : ModuleOpener)
    (configName : Option String) (settings : Table) : Turn Reply := do
  let images ← opener images
  match configName with
  | some name =>
    introduceLoader id (Loader.ofConfig (← configuration name "loader") images modules)
  | none => introduceLoader id (withSettings { images := images, modules := modules } settings)

/-- The loader of a call; the shared one has the standard settings. -/
def loaderOf (request : LoadRequest) : Turn Loader := do
  if request.operation.isShared then return {}
  let r ← havingMember Object.loader? request.loader request.operation.member
  return (← get).world.loaders.get r

/-- Loads a source or takes a module over, once the arguments of the call are right. -/
def loadSubject (l : Loader) (request : LoadRequest) (found : Option (Ref .resolver))
    (key : Option FileKey) : Turn (Ref .file) := do
  let check := act (Action.ofExcept (request.operation.check request.arguments))
  let settings := request.settings
  match request.subject with
  | .source source =>
    check
    if request.operation = .standard then act (Loading.byDefault l source found key)
    else act (Loading.fromSource l source settings.mappedIo settings.loadsSymbols found key)
  | .module name =>
    let o ← object name
    check
    match o with
    | .module m => act (Loading.fromModule l m settings.loadsSymbols found key)
    | o => withoutMember o "enable_type_lookup_cache"

/-- Loads a file. -/
def load (id : String) (request : LoadRequest) : Turn Reply := do
  let found ← part Object.resolver? request.resolver
  let key ← requestedKey (request.key.getD .none)
  let l ← loaderOf request
  let r ← loadSubject l request found key
  register id (.file r)
  return .loaded (← viewLoaded r)

/-- Tells whether two modules share their context; one without a context has nothing to share. -/
def compareContexts (a b : String) : Turn Reply := do
  let first ← object a
  let second ← object b
  match first.module?, second.module? with
  | none, _ => withoutMember first "context"
  | _, none => withoutMember second "context"
  | some first, some second =>
    let first := (← act (Action.managedModule first)).context
    let second := (← act (Action.managedModule second)).context
    if first.isNone || second.isNone then throw (.failure (.noMember "NoneType" "resolver"))
    return .contexts (first == second)

end Turn

end PEInspect
