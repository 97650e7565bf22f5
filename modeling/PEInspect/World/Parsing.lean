import PEInspect.World.Modules

/-!
# Parsing modules

The metadata of an image, or of a content in memory, become a module if they have tables and a
module row. Otherwise the answer is a refusal, and metadata that were opened on the way are closed
again; the image stays as it was.
-/

namespace PEInspect

namespace Parsing

/-- Why a metadata reader stopped. -/
def failed (cause : Failure) : Refusal :=
  ⟨"dnfile failed to parse the image", some cause⟩

/-- Why metadata without tables are refused. -/
def tableless : Refusal :=
  ⟨"no CLR metadata", none⟩

/-- Why metadata without a module row are refused. -/
def moduleless : Refusal :=
  ⟨"metadata has no Module table", none⟩

/-- What is missing from metadata to make a module of them. -/
def missing? : Metadata → Option Refusal
  | .headerless => some tableless
  | .tableless => some tableless
  | .tables t => if t.modules.rows.isEmpty then some moduleless else none

/-- Calls the metadata reader on a content and keeps what it opens, unless that is no module. -/
def load (content : Bytes) : Action (Except Refusal (Ref .metadata)) := do
  let parser := (← get).metadataParser
  Action.emit (.metadataParsed content parser.announced)
  match parser.parse content with
  | .raised text => return .error (failed (.raised text))
  | .opened m =>
    let r ← Action.addMetadata ⟨m, parser.announced, 0⟩
    match missing? m with
    | some refusal =>
      Modules.closeMetadata r
      return .error refusal
    | none => return .ok r

/-- A module over opened metadata. -/
def moduleOver (metadata : Ref .metadata) (location : Option String) (image : Option (Ref .image))
    (context : Option (Ref .context)) : ManagedModule where
  location := location
  context := context
  image := image
  body := .parsed metadata {}

/-- Parses a module out of an opened image, which it then owns. -/
def parseImage (image : Ref .image) (context : Option (Ref .context)) :
    Action (Except Refusal (Ref .module)) := do
  match ← Action.attempt (Images.content image) with
  | .error cause => return .error (failed cause)
  | .ok content =>
    match ← load content with
    | .error refusal => return .error refusal
    | .ok metadata =>
      let location := (← Action.image image).fileName
      return .ok (← Action.addModule (moduleOver metadata location (some image) context))

/-- Parses a module held in memory, with no image behind it. -/
def parseBytes (content : Bytes) (location : Option String) (context : Option (Ref .context)) :
    Action (Except Refusal (Ref .module)) := do
  match ← load content with
  | .error refusal => return .error refusal
  | .ok metadata => return .ok (← Action.addModule (moduleOver metadata location none context))

end Parsing

end PEInspect
