import PEInspect.World.Basic

/-!
# Sessions

A session is a world with names for its objects. A name stands for the object that it was given to
last; an object is reported under the first name that it was given.
-/

namespace PEInspect

/-- An object that a name can stand for. -/
inductive Object where
  | image (r : Ref .image)
  | module (r : Ref .module)
  | file (r : Ref .file)
  | store (r : Ref .store)
  | resolver (r : Ref .resolver)
  | config (r : Ref .config)
  | loader (r : Ref .loader)
  deriving Repr, DecidableEq, Inhabited

namespace Object

/-- The image that an object is. -/
def image? : Object → Option (Ref .image)
  | .image r => some r
  | _ => none

/-- The module that an object is. -/
def module? : Object → Option (Ref .module)
  | .module r => some r
  | _ => none

/-- The file that an object is. -/
def file? : Object → Option (Ref .file)
  | .file r => some r
  | _ => none

/-- The resolver that an object is. -/
def resolver? : Object → Option (Ref .resolver)
  | .resolver r => some r
  | _ => none

/-- The configuration that an object is. -/
def config? : Object → Option (Ref .config)
  | .config r => some r
  | _ => none

/-- The loader that an object is. -/
def loader? : Object → Option (Ref .loader)
  | .loader r => some r
  | _ => none

/-- The name of an object's kind; images and modules are told apart by their forms. -/
def kind (w : World) : Object → String
  | .image r => (w.images.get r).form
  | .module r => (w.modules.get r).form
  | .file _ => "LoadedFile"
  | .store _ => "AnnotationStore"
  | .resolver _ => "FakeResolver"
  | .config _ => "SpyglassConfig"
  | .loader _ => "FileLoader"

end Object

/-- The names of a session: the object of each name, and the first name of each object. -/
structure Names where
  objects : Document.Entries String Object := []
  labels : Document.Entries Object String := []
  deriving Repr, Inhabited

namespace Names

/-- Gives a name to an object. -/
def register (names : Names) (name : String) (object : Object) : Names where
  objects := Document.Entries.insert names.objects name object
  labels := Document.Entries.insertNew names.labels object name

/-- How an object is reported. -/
def label (names : Names) (object : Object) : String :=
  (names.labels.lookup object).getD "?"

end Names

/-- A world with names for its objects. -/
structure Session where
  world : World := {}
  names : Names := {}
  deriving Inhabited

/-- Why a step of a session has no answer: an operation failed, or a name stands for nothing. -/
inductive Fault where
  | failure (f : Failure)
  | unknown (name : String)
  deriving Repr, DecidableEq, Inhabited

/-- A computation on a session that may fail. -/
abbrev Turn (α : Type) := ExceptT Fault (StateM Session) α

namespace Turn

/-- Runs a turn: its result, and the session after it. -/
def outcome {α : Type} (turn : Turn α) (s : Session) : Except Fault α × Session :=
  (ExceptT.run turn).run s

/-- An action on the world as a turn. -/
def act {α : Type} (action : Action α) : Turn α :=
  ExceptT.mk fun s =>
    let (result, world) := action.outcome s.world
    (result.mapError Fault.failure, { s with world := world })

/-- Gives a name to an object. -/
def register (name : String) (object : Object) : Turn Unit :=
  modify fun s => { s with names := s.names.register name object }

/-- How an object is reported. -/
def label (object : Object) : Turn String :=
  return (← get).names.label object

/-- The object that a name stands for. -/
def object (name : String) : Turn Object := do
  match (← get).names.objects.lookup name with
  | some object => return object
  | none => throw (.unknown name)

/-- Fails because an object has no such member. -/
def withoutMember {α : Type} (o : Object) (member : String) : Turn α := do
  throw (.failure (.noMember (o.kind (← get).world) member))

/-- The object that a name stands for, of the kind that has a member. -/
def havingMember {α : Type} (select : Object → Option α) (name member : String) : Turn α := do
  let o ← object name
  match select o with
  | some x => return x
  | none => withoutMember o member

/-- The object of a kind that a name stands for, if it is given one, as a part of something. -/
def part {α : Type} (select : Object → Option α) (name : Option String) : Turn (Option α) :=
  name.mapM fun name => do
    match select (← object name) with
    | some x => return x
    | none => throw (.unknown name)

/-- The image that a name stands for, to be asked for a member. -/
def image (name member : String) : Turn (Ref .image) :=
  havingMember Object.image? name member

/-- The module that a name stands for, to be asked for a member. -/
def managedModule (name member : String) : Turn (Ref .module) :=
  havingMember Object.module? name member

/-- The file that a name stands for, to be asked for a member. -/
def file (name member : String) : Turn (Ref .file) :=
  havingMember Object.file? name member

/-- The configuration that a name stands for, to be asked for a member. -/
def config (name member : String) : Turn (Ref .config) :=
  havingMember Object.config? name member

end Turn

end PEInspect
