import PEInspect.Session.Command

/-!
# Surroundings

Commands that change what the library finds around it: the environment, and the parsers that it
relies on.
-/

namespace PEInspect

open Document

namespace Turn

/-- Changes the world. -/
def changeWorld (f : World → World) : Turn Reply := do
  modify fun s => { s with world := f s.world }
  return .nothing

/-- Sets or removes an environment variable. -/
def setVariable (name : String) (value : Option String) : Turn Reply :=
  changeWorld fun w =>
    { w with
      environment := match value with
        | some text => Entries.insert w.environment name text
        | none => Entries.erase w.environment name }

/-- Lets a header parser with one outcome, which announces its calls, take the place of the
library's own. -/
def useHeaders (outcome : HeaderOutcome) : Turn Reply :=
  changeWorld fun w =>
    { w with headerParser := ⟨fun _ => outcome, true⟩, headerLogSilenced := false }

/-- Lets a metadata parser with one outcome, which announces its calls, take the place of the
library's own. -/
def useMetadata (outcome : MetadataOutcome) : Turn Reply :=
  changeWorld fun w => { w with metadataParser := ⟨fun _ => outcome, true⟩ }

end Turn

end PEInspect
