import PEInspect.World.Basic

/-!
# Files under maps

Writing and removing files while maps of them are open. A map shows what is written to its file
later, within the size that the file had when it was mapped. A file that is removed lives on in its
maps, and a file written in its place is another one.
-/

namespace PEInspect

namespace Storage

/-- Whether a map is one of the file at a place. -/
def isMapOf (m : Mapping) (place : Option Disk.Place) : Bool :=
  place.isSome && m.file == place

/-- Writes the file at a path. -/
def write (path : Path) (content : Bytes) : Action Unit := do
  let disk ← Action.ofExcept ((← get).disk.write path content)
  let place := disk.placeOf? path
  modify fun w => { w with
    disk := disk
    mappings := w.mappings.map fun m => if isMapOf m place then m.refresh content else m }

/-- Removes the file at a path. -/
def remove (path : Path) : Action Unit := do
  let place := ((← get).disk.entry path).toOption
  let disk ← Action.ofExcept ((← get).disk.remove path)
  modify fun w => { w with
    disk := disk
    mappings := w.mappings.map fun m => if isMapOf m place then { m with file := none } else m }

end Storage

end PEInspect
