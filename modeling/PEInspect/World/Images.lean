import PEInspect.World.Basic

/-!
# Images

What can be asked of an opened image: its bytes and their number, a data directory, whether it is
managed, its one-line text; and how it is closed. A parsed image forgets its directories when it is
closed, and a mapped one also loses its bytes.
-/

namespace PEInspect

namespace Images

/-- The bytes in a view; a closed map has none to give. -/
def viewContent (view : View) : Action Bytes := do
  match view with
  | .memory content => return content
  | .mapped map =>
    let mapping := (← get).mappings.get map
    if mapping.closings = 0 then return mapping.content else throw .closedMap

/-- The bytes of an image. -/
def content (r : Ref .image) : Action Bytes := do
  match (← Action.image r).body with
  | .scripted _ content => return content
  | .parsed _ view _ => viewContent view

/-- The number of bytes of an image. -/
def size (r : Ref .image) : Action Nat :=
  return (← content r).length

/-- The entry of a directory table at an index. Beyond the end of the table all entries are empty;
negative indexes count from the end, and those in front of the first entry fail. -/
def entry (table : DirectoryTable) (index : Int) : Except Failure DataDirectory :=
  let position := if index < 0 then index + table.entries.length else index
  if position < 0 then .error (if table.silent then .directoryOutOfRange else .indexOutOfRange)
  else .ok (table.entries.getD position.toNat {})

/-- The entry of a scripted directory table, which is empty on both sides of the table. -/
def scriptedEntry (directories : List DataDirectory) (index : Int) : DataDirectory :=
  if index < 0 then {} else directories.getD index.toNat {}

/-- A data directory of an image. -/
def directory (r : Ref .image) (index : Int) : Action DataDirectory := do
  match (← Action.image r).body with
  | .scripted directories _ =>
    Action.emit (.directoryRead index)
    return scriptedEntry directories index
  | .parsed none _ _ => throw (.noMember "NoneType" "data_directories")
  | .parsed (some directories) _ _ => Action.ofExcept (entry directories index)

/-- Whether an image carries a runtime header. -/
def isManaged (r : Ref .image) : Action Bool :=
  return (← directory r runtimeDirectoryIndex).isManaged

/-- The map behind an image. -/
def map? (i : Image) : Option (Ref .mapping) :=
  match i.body with
  | .parsed _ (.mapped map) _ => some map
  | _ => none

/-- Whether an image is mapped; a scripted one does not say. -/
def isMapped? (i : Image) : Option Bool :=
  match i.body with
  | .scripted .. => none
  | .parsed .. => some (map? i).isSome

/-- Whether the map behind an image is closed. -/
def isMapClosed (r : Ref .image) : Action Bool := do
  match map? (← Action.image r) with
  | some map => return ((← get).mappings.get map).closings != 0
  | none => throw (.noMember "bytes" "closed")

/-- Closes a map. -/
def closeMap (r : Ref .mapping) : Action Unit := do
  Action.emit (.mapClosed r)
  modify fun w =>
    { w with mappings := w.mappings.change r fun m => { m with closings := m.closings + 1 } }

/-- Closes a handle. -/
def closeHandle (r : Ref .handle) : Action Unit := do
  Action.emit (.handleClosed r)
  modify fun w =>
    { w with handles := w.handles.change r fun h => { h with closings := h.closings + 1 } }

/-- Lets go of a view and of the handle below it. -/
def release (view : View) (handle : Option (Ref .handle)) : Action Unit := do
  match view with
  | .mapped map => closeMap map
  | .memory _ => pure ()
  match handle with
  | some h => closeHandle h
  | none => pure ()

/-- Closes an image. -/
def close (r : Ref .image) : Action Unit := do
  let image ← Action.image r
  match image.body with
  | .scripted .. => Action.emit (.imageClosed image.fileName)
  | .parsed _ view handle =>
    Action.emit (.imageReleased r)
    release view handle
    Action.changeImage r fun i => { i with body := .parsed none view none }

/-- A text that may be missing, as it is shown. -/
def shownText : Option String → String
  | some s => Text.quoted s
  | none => "None"

/-- The one-line text of an image. -/
def summary (i : Image) : String :=
  i.form ++ "(" ++ shownText i.fileName ++ ")"

end Images

end PEInspect
