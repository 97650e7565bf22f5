import PEInspect.World.Basic

/-!
# Annotation stores

Annotations are held by stores of their own and by loaded files. A slot is made at its first use, by
a factory or as the empty value of its kind, and keeps its value until it is removed.
-/

namespace PEInspect

/-- What holds annotations. -/
inductive Holder where
  | store (r : Ref .store)
  | file (r : Ref .file)
  deriving Repr, DecidableEq, Inhabited

namespace Stores

/-- The annotations of a holder. -/
def read (holder : Holder) : Action AnnotationStore := do
  match holder with
  | .store r => return (← get).stores.get r
  | .file r => return (← Action.file r).annotations

/-- Replaces the annotations of a holder. -/
def write (holder : Holder) (annotations : AnnotationStore) : Action Unit :=
  match holder with
  | .store r => modify fun w => { w with stores := w.stores.set r annotations }
  | .file r => Action.changeFile r fun f => { f with annotations := annotations }

/-- Makes an object with the next number. -/
def numbered (make : Nat → AnnotationValue) : Action AnnotationValue :=
  modifyGet fun w => (make (w.gadgets + 1), { w with gadgets := w.gadgets + 1 })

/-- The empty value of a kind. -/
def emptyValue (kind : AnnotationKind) : Action AnnotationValue :=
  match kind with
  | .table => return .plain (.table [])
  | .list => return .plain (.list [])
  | .text => return .plain (.text "")
  | .int => return .plain (.int 0)
  | .bool => return .plain (.bool false)
  | .float => return .plain (.float (.zero false))
  | .bytes => return .bytes []
  | .custom name => numbered (.custom name)
  | .null => throw (.notCallable "NoneType")

/-- How a slot gets its first value: as the kind says, or from a factory, which fails, makes the
empty value of some kind, or gives a value. -/
inductive Recipe where
  | standard
  | failing (text : String)
  | fresh (kind : AnnotationKind)
  | given (value : AnnotationValue)
  deriving Repr, Inhabited

/-- Follows a recipe for a slot of a kind. -/
def make (kind : AnnotationKind) (recipe : Recipe) : Action AnnotationValue :=
  match recipe with
  | .standard => emptyValue kind
  | .failing text => throw (.raised text)
  | .fresh kind => emptyValue kind
  | .given value => return value

/-- Makes the value of an empty slot and puts it there. -/
def create (holder : Holder) (key : String) (kind : AnnotationKind) (recipe : Recipe) :
    Action AnnotationValue := do
  let value ← make kind recipe
  write holder ((← read holder).put key kind value)
  return value

/-- The value of a slot, which is made if the slot is empty. -/
def getOrCreate (holder : Holder) (key : String) (kind : AnnotationKind) (recipe : Recipe) :
    Action AnnotationValue := do
  match (← read holder).find? key kind with
  | some value => return value
  | none => create holder key kind recipe

/-- Removes one slot of a key or all of them; the null kind stands for all. -/
def remove (holder : Holder) (key : String) (kind : Option AnnotationKind) : Action Unit := do
  match (← read holder).remove? key (kind.filter (· ≠ .null)) with
  | some annotations => write holder annotations
  | none => throw .slotMissing

/-- The name of an annotation value's kind. -/
def kindName : AnnotationValue → String
  | .plain v => v.kind
  | .bytes _ => "bytes"
  | .custom name _ => name

/-- Appends a value to the list in the list slot of a key, if there is such a slot. -/
def push (holder : Holder) (key : String) (item : Document.Value) :
    Action (Option AnnotationValue) := do
  match (← read holder).find? key .list with
  | none => return none
  | some (.plain .null) => return none
  | some (.plain (.list items)) =>
    let value := AnnotationValue.plain (.list (items ++ [item]))
    write holder ((← read holder).put key .list value)
    return some value
  | some value => throw (.noMember (kindName value) "append")

end Stores

end PEInspect
