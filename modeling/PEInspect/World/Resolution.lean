import PEInspect.World.Modules

/-!
# Resolution

References from one module into others: a resolver finds the manifest module of an assembly by the
assembly's name, and a type is then sought in that module. Nothing is found without a resolver.
-/

namespace PEInspect

namespace Resolution

/-- Asks a resolver for the manifest module of an assembly. -/
def ask (r : Ref .resolver) (assembly : Assembly) : Action (Option (Ref .module)) := do
  Action.emit (.assemblySought assembly.fullName)
  return (((← get).resolvers.get r).modules.lookup assembly.name).join

/-- The manifest module of an assembly. -/
def module? (tokens : TokenResolver) (assembly : Assembly) : Action (Option (Ref .module)) := do
  match tokens.resolver with
  | none => return none
  | some r => ask r assembly

/-- A type of an assembly. -/
def type? (tokens : TokenResolver) (assembly : Assembly) (space name : String) :
    Action (Option TypeInfo) := do
  match ← module? tokens assembly with
  | none => return none
  | some m => Modules.findType m space name

/-- The token resolver of a module, from the module's context. -/
def ofModule (r : Ref .module) : Action TokenResolver := do
  match (← Action.managedModule r).context with
  | none => throw (.noMember "NoneType" "resolver")
  | some c => return ((← get).contexts.get c).tokens

end Resolution

end PEInspect
