import PEInspect.World.Images

/-!
# Modules

What can be asked of a managed module: its name, the assembly that it is the manifest of, its types,
and a type by namespace and name; how symbols are attached to it; and how it is closed. A module
owns the image that it was read from: closing the module closes its metadata first and then the
image.
-/

namespace PEInspect

namespace Modules

/-- The metadata behind a reference. -/
def metadata (r : Ref .metadata) : Action Metadata :=
  return ((← get).metadata.get r).content

/-- The name of a module. -/
def name (r : Ref .module) : Action String := do
  match (← Action.managedModule r).body with
  | .scripted script => return script.name
  | .parsed m _ => Action.ofExcept (← metadata m).moduleName

/-- The assembly that a module is the manifest of. -/
def assembly (r : Ref .module) : Action (Option Assembly) := do
  match (← Action.managedModule r).body with
  | .scripted script => return script.assembly
  | .parsed m _ => Action.ofExcept (← metadata m).assembly

/-- The types of a scripted module, with tokens as metadata give them. -/
def scriptedTypes (script : ModuleScript) : List TypeInfo :=
  typesFrom 1 (script.types.map fun t => ⟨.plain (.text t.1), .plain (.text t.2)⟩)

/-- The types of a parsed module; a scripted one does not list its types. -/
def types (r : Ref .module) : Action (List TypeInfo) := do
  match (← Action.managedModule r).body with
  | .scripted _ => throw (.noMember "FakeModule" "_iter_types")
  | .parsed m _ => Action.ofExcept (← metadata m).typeList

/-- Replaces the way in which a parsed module looks types up. -/
def setLookup (r : Ref .module) (m : Ref .metadata) (lookup : TypeLookup) : Action Unit :=
  Action.changeModule r fun x => { x with body := .parsed m lookup }

/-- Switches the type index of a module on or off. -/
def switchLookup (r : Ref .module) (enabled : Bool) : Action Unit := do
  match (← Action.managedModule r).body with
  | .scripted _ => Action.emit (.lookupSwitched enabled)
  | .parsed m lookup =>
    setLookup r m (lookup.enable enabled)

/-- The types that a search has to look at: none if an index stands already. -/
def searched (m : Ref .metadata) (lookup : TypeLookup) : Action (List TypeInfo) := do
  if lookup.enabled && lookup.index.isSome then return []
  else Action.ofExcept (← metadata m).typeList

/-- Finds a type of a module. -/
def findType (r : Ref .module) (space name : String) : Action (Option TypeInfo) := do
  match (← Action.managedModule r).body with
  | .scripted script =>
    Action.emit (.typeSought space name)
    return firstNamed (scriptedTypes script) space name
  | .parsed m lookup =>
    setLookup r m lookup.start
    let (found, lookup) := lookup.find (← searched m lookup) space name
    setLookup r m lookup
    return found

/-- Adds a row to the type table of a parsed module and counts the rows. -/
def addType (r : Ref .module) (row : TypeRow) : Action Nat := do
  match (← Action.managedModule r).body with
  | .scripted _ => throw (.noMember "FakeModule" "pe")
  | .parsed m _ =>
    let content ← Action.ofExcept ((← metadata m).addType row)
    modify fun w =>
      { w with metadata := w.metadata.change m fun o => { o with content := content } }
    return (← Action.ofExcept content.typeList).length

/-- Closes metadata. -/
def closeMetadata (r : Ref .metadata) : Action Unit := do
  let opened := (← get).metadata.get r
  Action.emit (.metadataClosed r opened.announced)
  modify fun w =>
    { w with metadata := w.metadata.change r fun o => { o with closings := o.closings + 1 } }

/-- Closes the image that a module owns. -/
def closeImage (image : Option (Ref .image)) : Action Unit :=
  match image with
  | some i => Images.close i
  | none => pure ()

/-- Closes a module, and then the image that it owns. -/
def close (r : Ref .module) : Action Unit := do
  let m ← Action.managedModule r
  match m.body with
  | .scripted script => Action.emit (.moduleClosed script.name)
  | .parsed opened lookup =>
    closeMetadata opened
    setLookup r opened lookup.drop
  closeImage m.image

/-- Reads a symbol file and attaches its symbols to a module. A refused file changes nothing. -/
def loadSymbols (r : Ref .module) (path : Path) : Action (Except Refusal SymbolData) := do
  let result ← Action.ofReport (Symbols.read (← get).disk path)
  match result with
  | .ok symbols => Action.changeModule r fun x => { x with symbols := some symbols }
  | .error _ => pure ()
  return result

/-- The one-line text of a module. -/
def summary (r : Ref .module) : Action String := do
  let m ← Action.managedModule r
  let name ← name r
  return m.form ++ "(" ++ Text.quoted name ++ ", location=" ++ Images.shownText m.location ++ ")"

end Modules

end PEInspect
