import PEInspect.Session.Command

/-!
# Requests

What commands ask for beside objects: a context, a file key, or a resolver to go through. A request is
met when its command is carried out, and a request that cannot be met stops the command.
-/

namespace PEInspect

namespace Turn

/-- Meets a request for a context. -/
def requestedContext (request : ContextRequest) : Turn (Option (Ref .context)) := do
  match request with
  | .none => return none
  | .around name =>
    return some (← act (Loading.freshContext (← part Object.resolver? name)))

/-- Meets a request for a file key. -/
def requestedKey (request : KeyRequest) : Turn (Option FileKey) := do
  match request with
  | .none => return none
  | .filename path => return some (.filename path)
  | .sha256 digest => return some (.content digest)
  | .content bytes => return some (.ofBytes bytes)
  | .file path =>
    let disk := (← get).world.disk
    return some (.ofBytes (← act (Action.ofExcept (disk.read (Path.ofString path)))))

/-- The token resolver of a scope. -/
def tokensOf (scope : Scope) : Turn TokenResolver := do
  match scope with
  | .module name => act (Resolution.ofModule (← managedModule name "context"))
  | .resolver name =>
    return ⟨← name.mapM (havingMember Object.resolver? · "resolve"), false⟩

end Turn

end PEInspect
