import PEInspect.Config.Merge
import PEInspect.World.Object

/-!
# The world of a session

Everything that operations read and change: the disk, the home directory, the environment, the
parsers that the library relies on, the objects, a trace of the calls between them, and the log. An
action changes the world and may fail; what it did before failing stays done.
-/

namespace PEInspect

open Document

/-- A parser of image headers, whatever it answers; whether its calls are announced. -/
structure HeaderParser where
  parse : HeaderSource → HeaderOutcome
  announced : Bool
  deriving Inhabited

/-- A parser of metadata, whatever it answers; whether its calls are announced. -/
structure MetadataParser where
  parse : Bytes → MetadataOutcome
  announced : Bool
  deriving Inhabited

/-- A path or a content, as a caller asks for a file. -/
inductive Target where
  | path (text : String)
  | content (bytes : Bytes)
  deriving Repr, DecidableEq, Inhabited

/-- A call between the parts of the library and the parts it relies on. -/
inductive Event where
  /-- The header parser's own log is switched off. -/
  | headerLogSilenced (announced : Bool)
  /-- The header parser is called. -/
  | headersParsed (source : HeaderSource) (announced : Bool)
  /-- The metadata parser is called. -/
  | metadataParsed (content : Bytes) (announced : Bool)
  /-- Metadata are closed. -/
  | metadataClosed (metadata : Ref .metadata) (announced : Bool)
  /-- A scripted opener is asked for an image. -/
  | imageOpened (target : Target) (mapped : Value)
  /-- A scripted image is asked for a directory. -/
  | directoryRead (index : Int)
  /-- A scripted image is closed. -/
  | imageClosed (fileName : Option String)
  /-- A parsed image is closed, with what is open below it. -/
  | imageReleased (image : Ref .image)
  /-- A map is closed. -/
  | mapClosed (map : Ref .mapping)
  /-- A handle is closed. -/
  | handleClosed (handle : Ref .handle)
  /-- A scripted opener is asked for a module. -/
  | moduleParsed (fileName : Option String)
  /-- The type index of a scripted module is switched. -/
  | lookupSwitched (enabled : Bool)
  /-- A scripted module is asked for a type. -/
  | typeSought (space name : String)
  /-- A scripted module is closed. -/
  | moduleClosed (name : String)
  /-- A resolver is asked for an assembly. -/
  | assemblySought (fullName : String)
  deriving Repr, Inhabited

/-- Whether a call is announced to an observer. -/
def Event.isAnnounced : Event → Bool
  | .headerLogSilenced announced => announced
  | .headersParsed _ announced => announced
  | .metadataParsed _ announced => announced
  | .metadataClosed _ announced => announced
  | .imageReleased _ | .mapClosed _ | .handleClosed _ => false
  | _ => true

/-- Everything that operations read and change. -/
structure World where
  disk : Disk := {}
  home : Path := {}
  environment : Environment := []
  headerParser : HeaderParser := default
  metadataParser : MetadataParser := default
  headerLogSilenced : Bool := false
  handles : Arena .handle FileHandle := {}
  mappings : Arena .mapping Mapping := {}
  metadata : Arena .metadata OpenMetadata := {}
  images : Arena .image Image := {}
  contexts : Arena .context ModuleContext := {}
  modules : Arena .module ManagedModule := {}
  resolvers : Arena .resolver Resolver := {}
  files : Arena .file LoadedFile := {}
  stores : Arena .store AnnotationStore := {}
  configs : Arena .config Config := {}
  loaders : Arena .loader Loader := {}
  gadgets : Nat := 0
  trace : List Event := []
  log : List Notice := []
  deriving Inhabited

/-- A computation on the world that may fail. -/
abbrev Action (α : Type) := ExceptT Failure (StateM World) α

namespace Action

/-- Runs an action: its result, and the world after it. -/
def outcome {α : Type} (action : Action α) (w : World) : Except Failure α × World :=
  (ExceptT.run action).run w

/-- Records a call. -/
def emit (event : Event) : Action Unit :=
  modify fun w => { w with trace := w.trace ++ [event] }

/-- Writes a notice for those who look into details. -/
def debug (text : String) : Action Unit :=
  modify fun w => { w with log := w.log ++ [⟨.debug, text⟩] }

/-- Fails if a pure result is a failure. -/
def ofExcept {α : Type} (result : Except Failure α) : Action α :=
  match result with
  | .ok a => pure a
  | .error f => throw f

/-- Runs an action and hands out its failure, if it fails. -/
def attempt {α : Type} (action : Action α) : Action (Except Failure α) :=
  ExceptT.mk (do return .ok (← ExceptT.run action))

/-- Runs a report and keeps its notices. -/
def ofReport {α : Type} (report : Report α) : Action α := do
  let (result, notices) := report.outcome
  modify fun w => { w with log := w.log ++ notices }
  ofExcept result

/-! ## What actions do -/

/-- Doing nothing changes nothing. -/
@[simp] theorem outcome_pure {α : Type} (x : α) (w : World) :
    outcome (pure x) w = (.ok x, w) := rfl

/-- Failing changes nothing. -/
@[simp] theorem outcome_throw {α : Type} (f : Failure) (w : World) :
    outcome (throw f : Action α) w = (.error f, w) := rfl

/-- Looking at the world changes nothing. -/
@[simp] theorem outcome_get (w : World) : outcome get w = (.ok w, w) := rfl

/-- A change of the world is made. -/
@[simp] theorem outcome_modify (f : World → World) (w : World) :
    outcome (modify f) w = (.ok (), f w) := rfl

/-- A change of the world is made, and its value given. -/
@[simp] theorem outcome_modifyGet {α : Type} (f : World → α × World) (w : World) :
    outcome (modifyGet f) w = (.ok (f w).1, (f w).2) := rfl

/-- An action after another starts in the world that the first leaves, if the first succeeds. -/
theorem outcome_bind {α β : Type} (action : Action α) (next : α → Action β) (w : World) :
    outcome (action >>= next) w =
      match outcome action w with
      | (.ok x, after) => outcome (next x) after
      | (.error f, after) => (.error f, after) := by
  simp only [outcome, bind, ExceptT.bind, ExceptT.mk, ExceptT.run, StateT.run, StateT.bind]
  rcases (action : World → Except Failure α × World) w with ⟨_ | _, _⟩ <;> rfl

/-- A call is recorded. -/
@[simp] theorem outcome_emit (event : Event) (w : World) :
    outcome (emit event) w = (.ok (), { w with trace := w.trace ++ [event] }) := rfl

/-- A notice is written. -/
@[simp] theorem outcome_debug (text : String) (w : World) :
    outcome (debug text) w = (.ok (), { w with log := w.log ++ [⟨.debug, text⟩] }) := rfl

/-- A pure result changes nothing. -/
@[simp] theorem outcome_ofExcept {α : Type} (result : Except Failure α) (w : World) :
    outcome (ofExcept result) w = (result, w) := by
  cases result <;> rfl

/-- An attempt succeeds with the result of the action, whatever it is. -/
@[simp] theorem outcome_attempt {α : Type} (action : Action α) (w : World) :
    outcome (attempt action) w = (.ok (outcome action w).1, (outcome action w).2) := rfl

/-! ## Objects -/

/-- The image behind a reference. -/
def image (r : Ref .image) : Action Image :=
  return (← get).images.get r

/-- Makes an image. -/
def addImage (i : Image) : Action (Ref .image) :=
  modifyGet fun w => (w.images.next, { w with images := w.images.add i })

/-- Changes an image. -/
def changeImage (r : Ref .image) (f : Image → Image) : Action Unit :=
  modify fun w => { w with images := w.images.change r f }

/-- The module behind a reference. -/
def managedModule (r : Ref .module) : Action ManagedModule :=
  return (← get).modules.get r

/-- Makes a module. -/
def addModule (m : ManagedModule) : Action (Ref .module) :=
  modifyGet fun w => (w.modules.next, { w with modules := w.modules.add m })

/-- Changes a module. -/
def changeModule (r : Ref .module) (f : ManagedModule → ManagedModule) : Action Unit :=
  modify fun w => { w with modules := w.modules.change r f }

/-- Makes a context. -/
def addContext (c : ModuleContext) : Action (Ref .context) :=
  modifyGet fun w => (w.contexts.next, { w with contexts := w.contexts.add c })

/-- Takes metadata into care. -/
def addMetadata (m : OpenMetadata) : Action (Ref .metadata) :=
  modifyGet fun w => (w.metadata.next, { w with metadata := w.metadata.add m })

/-- The file behind a reference. -/
def file (r : Ref .file) : Action LoadedFile :=
  return (← get).files.get r

/-- Makes a file. -/
def addFile (f : LoadedFile) : Action (Ref .file) :=
  modifyGet fun w => (w.files.next, { w with files := w.files.add f })

/-- Changes a file. -/
def changeFile (r : Ref .file) (f : LoadedFile → LoadedFile) : Action Unit :=
  modify fun w => { w with files := w.files.change r f }

end Action

end PEInspect
