import PEInspect.Session.Perform

/-!
# Steps

A session runs steps one after the other. Most steps are one command. A step can also enter a file
and run further steps inside, closing the file at the end whatever happened; or use an annotation
whose factory runs further steps before it makes the value. Every step is answered with its result,
the calls made during it, and the notices written during it; what nested steps did belongs to their
own answers.
-/

namespace PEInspect

/-- A step of a session. -/
inductive Step where
  | command (c : Command)
  | within (file : String) (body : List Step) (raised : Option String)
  | annotate (on key : String) (kind : AnnotationKind) (recipe : Stores.Recipe)
      (body : List Step) (reported : Bool)
  deriving Inhabited

/-- The calls and the notices of a step. -/
structure Record where
  events : List Event := []
  notices : List Notice := []
  deriving Inhabited

/-- The answer to a step. -/
inductive Answer where
  | plain (result : Except Fault Reply) (record : Record)
  | within (file : String) (inner : List Answer) (failure : Option Failure) (record : Record)
  | annotated (result : Except Fault Reply) (called : Bool) (inner : Option (List Answer))
  deriving Inhabited

namespace Session

/-- Runs a turn and keeps its calls and notices apart from those of the turns around it. -/
def recorded {α : Type} (turn : Turn α) (s : Session) : Except Fault α × Record × Session :=
  let (result, after) := turn.outcome { s with world := { s.world with trace := [], log := [] } }
  (result, ⟨after.world.trace, after.world.log⟩,
    { after with world := { after.world with trace := s.world.trace, log := s.world.log } })

/-- The failure that a step inside a file ends with: that of closing the file, or the one that it
was told to raise. -/
def exitFailure (closed : Except Fault Unit) (raised : Option String) : Option Failure :=
  match closed with
  | .error (.failure f) => some f
  | _ => raised.map Failure.raised

/-- Closes a file at the end of the steps inside it. -/
def leave (r : Ref .file) (label : String) (inner : List Answer) (raised : Option String)
    (s : Session) : Answer × Session :=
  let (closed, record, after) := recorded (Turn.act (Files.close r)) s
  (.within label inner (exitFailure closed raised) record, after)

/-- The file that a name stands for; only files can be entered. -/
def enterable (name : String) : Turn (Ref .file) := do
  let o ← Turn.object name
  match o with
  | .file r => return r
  | o => throw (.failure (.notEnterable (o.kind (← get).world)))

/-- What a slot of a named holder has, and the holder. -/
def slot (name key : String) (kind : AnnotationKind) :
    Turn (Holder × Option AnnotationValue) := do
  let h ← Turn.holder name "get_or_create"
  return (h, (← Turn.act (Stores.read h)).find? key kind)

/-- Whether a recipe calls a factory. -/
def callsFactory : Stores.Recipe → Bool
  | .standard => false
  | _ => true

/-- Fills an empty slot after the steps of its factory. -/
def fill (h : Holder) (key : String) (kind : AnnotationKind) (recipe : Stores.Recipe)
    (inner : Option (List Answer)) (s : Session) : Answer × Session :=
  let (result, after) := (Turn.act (Stores.create h key kind recipe)).outcome s
  (.annotated (result.map Reply.value) (callsFactory recipe) inner, after)

mutual

/-- Runs one step. -/
def runStep (s : Session) : Step → Answer × Session
  | .command c =>
    let (result, record, after) := s.recorded c.perform
    (.plain result record, after)
  | .within file body raised =>
    match (enterable file).outcome s with
    | (.error fault, after) => (.plain (.error fault) {}, after)
    | (.ok r, after) =>
      let (inner, after) := runSteps after body
      leave r (after.names.label (.file r)) inner raised after
  | .annotate on key kind recipe body reported =>
    match (slot on key kind).outcome s with
    | (.error fault, after) => (.annotated (.error fault) false none, after)
    | (.ok (_, some value), after) => (.annotated (.ok (.value value)) false none, after)
    | (.ok (h, none), after) =>
      let (inner, after) := runSteps after body
      fill h key kind recipe (if reported then some inner else none) after

/-- Runs steps in order. -/
def runSteps (s : Session) : List Step → List Answer × Session
  | [] => ([], s)
  | step :: rest =>
    let (answer, after) := runStep s step
    let (answers, last) := runSteps after rest
    (answer :: answers, last)

end

/-- The answers to steps of a session that starts in a world, with names for nothing. -/
def answers (world : World) (steps : List Step) : List Answer :=
  (runSteps { world := world } steps).1

end Session

end PEInspect
