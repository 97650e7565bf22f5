import PEInspect.Session.Requests

/-!
# Commands on modules

How modules come into a session, scripted, of given metadata or parsed, what can be changed on them,
and the resolvers that find them. A module gets its name before it is shown, so that it stays known
if it cannot be shown.
-/

namespace PEInspect

open Document

namespace Turn

/-- Names a module and shows it. -/
def introduce (id : String) (r : Ref .module) : Turn ModuleView := do
  register id (.module r)
  viewModule r

/-- Makes a scripted module, which is in no context. -/
def scriptModule (id : String) (imageName location : Option String) (script : ModuleScript) :
    Turn Reply := do
  let owned ← part Object.image? imageName
  let r ← act (Action.addModule ⟨location, none, none, owned, .scripted script⟩)
  return .module (← introduce id r)

/-- Makes a parsed module of given metadata. -/
def stageModule (id : String) (imageName location : Option String) (metadata : Metadata)
    (request : ContextRequest) : Turn Reply := do
  let owned ← part Object.image? imageName
  let context ← requestedContext request
  let opened ← act (Action.addMetadata ⟨metadata, true, 0⟩)
  let r ← act (Action.addModule (Parsing.moduleOver opened location owned context))
  return .module (← introduce id r)

/-- Names and shows a module if it could be parsed. -/
def introduceParsed (id : String) (result : Except Refusal (Ref .module)) : Turn Reply := do
  match result with
  | .error refusal => return .parsed (.error refusal)
  | .ok r => return .parsed (.ok (← introduce id r))

/-- Parses the module in an image. -/
def parseImage (id imageName : String) (request : ContextRequest) : Turn Reply := do
  let context ← requestedContext request
  let i ← image imageName "data"
  introduceParsed id (← act (Parsing.parseImage i context))

/-- Parses a module held in memory. -/
def parseBytes (id : String) (content : Bytes) (location : Option String)
    (request : ContextRequest) : Turn Reply := do
  let context ← requestedContext request
  introduceParsed id (← act (Parsing.parseBytes content location context))

/-- The body of a module with another name; only scripted modules can be renamed. -/
def renamed (name : Option String) : ModuleBody → ModuleBody
  | .scripted script => .scripted { script with name := name.getD script.name }
  | body => body

/-- Changes what can be set on a module. -/
def changeModule (name : String) (change : ModuleChange) : Turn Reply := do
  let r ← managedModule name "name"
  act (Action.changeModule r fun m => { m with
    location := change.location.getD m.location
    symbols := change.symbols.getD m.symbols
    body := renamed change.name m.body })
  return .module (← viewModule r)

/-- Loads a symbol file into a module. -/
def loadSymbols (name path : String) : Turn Reply := do
  let r ← managedModule name "load_symbols"
  let result ← act (Modules.loadSymbols r (Path.ofString path))
  return .symbols result (← act (Action.managedModule r)).symbols

/-- Makes a resolver. -/
def addResolver (id : String) (modules : List (String × Option String)) : Turn Reply := do
  let found ← modules.mapM fun entry => return (entry.1, ← part Object.module? entry.2)
  let made : Resolver := ⟨Entries.ofPairs found⟩
  let r ← modifyGet fun s =>
    (s.world.resolvers.next,
      { s with world := { s.world with resolvers := s.world.resolvers.add made } })
  register id (.resolver r)
  return .nothing

end Turn

end PEInspect
