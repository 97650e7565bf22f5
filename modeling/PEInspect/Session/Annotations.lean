import PEInspect.Session.Command

/-!
# Commands on annotations

Annotation stores, and the slots of stores and files.
-/

namespace PEInspect

open Document

namespace Turn

/-- The holder of annotations that an object is. -/
def holder? : Object → Option Holder
  | .store r => some (.store r)
  | .file r => some (.file r)
  | _ => none

/-- The holder of annotations that a name stands for, to be asked for a member. -/
def holder (name member : String) : Turn Holder :=
  havingMember holder? name member

/-- Makes an annotation store. -/
def addStore (id : String) : Turn Reply := do
  let r ← modifyGet fun s =>
    (s.world.stores.next, { s with world := { s.world with stores := s.world.stores.add {} } })
  register id (.store r)
  return .nothing

/-- Looks a slot up; an empty one has a default value. -/
def getValue (name key : String) (kind : AnnotationKind) (default : Value) : Turn Reply := do
  let a ← act (Stores.read (← holder name "get"))
  return .value ((a.find? key kind).getD (.plain default))

/-- Removes slots. -/
def removeSlots (name key : String) (kind : Option AnnotationKind) : Turn Reply := do
  act (Stores.remove (← holder name "remove") key kind)
  return .nothing

/-- Appends to a list annotation. -/
def pushValue (name key : String) (item : Value) : Turn Reply := do
  match ← act (Stores.push (← holder name "get") key item) with
  | some value => return .value value
  | none => return .nothing

/-- Lists the slots of a holder and tells which keys have any. -/
def slots (name : String) (keys : List String) : Turn Reply := do
  let o ← object name
  match holder? o with
  | none => throw (.failure (.notCountable (o.kind (← get).world)))
  | some h =>
    let a ← act (Stores.read h)
    return .slots a.toList (keys.map a.hasKey)

end Turn

end PEInspect
