import PEInspect.Image.Signature
import PEInspect.World.Images

/-!
# Opening images

A file is mapped or read, checked for the signature of an image, and given to the header parser.
Whatever goes wrong on the way is a refusal, and a refused file is left with nothing open.
-/

namespace PEInspect

/-- What a caller gives to open an image: a path, a content, or a value that is neither. -/
inductive ImageSource where
  | target (t : Target)
  | other (kind : String)
  deriving Repr, DecidableEq, Inhabited

namespace Opening

/-- Why a file cannot be read. -/
def unreadable (path : Path) (cause : Failure) : Refusal :=
  ⟨"cannot read " ++ path.toString, some cause⟩

/-- Why data are no image. -/
def unsigned : Refusal :=
  ⟨"missing MZ/PE signature", none⟩

/-- Why an image with a signature has no headers. -/
def unparsed (cause : Option Failure) : Refusal :=
  ⟨"LIEF failed to parse PE headers", cause⟩

/-- Opens a file for mapping. -/
def addHandle (path : Path) : Action (Ref .handle) :=
  modifyGet fun w =>
    (w.handles.next, { w with handles := w.handles.add ⟨path.toString, 0⟩ })

/-- Maps the content of a file. -/
def addMapping (path : Path) (content : Bytes) : Action (Ref .mapping) :=
  modifyGet fun w =>
    (w.mappings.next,
      { w with mappings := w.mappings.add { content := content, file := w.disk.placeOf? path } })

/-- Silences the header parser's own log, once. -/
def silence : Action Unit := do
  let w ← get
  if !w.headerLogSilenced then
    Action.emit (.headerLogSilenced w.headerParser.announced)
    modify fun w => { w with headerLogSilenced := true }

/-- Calls the header parser. -/
def parseHeaders (source : HeaderSource) : Action HeaderOutcome := do
  silence
  let parser := (← get).headerParser
  Action.emit (.headersParsed source parser.announced)
  return parser.parse source

/-- The notice about an opened image. -/
def openedText (fileName : String) (size : Nat) : String :=
  let shown := if fileName.isEmpty then "<memory>" else fileName
  "Opened PE image " ++ shown ++ " (" ++ toString size ++ " bytes)"

/-- Makes an image of a content that has been read into a view, or lets go of the view. A mapped
file is parsed by its path. -/
def parse (fileName : String) (content : Bytes) (view : View) (handle : Option (Ref .handle)) :
    Action (Except Refusal (Ref .image)) := do
  if !looksLikeImage content then
    Images.release view handle
    return .error unsigned
  let source := if handle.isSome then HeaderSource.path fileName content else .memory content
  match ← parseHeaders source with
  | .raised text =>
    Images.release view handle
    return .error (unparsed (some (.raised text)))
  | .rejected =>
    Images.release view handle
    return .error (unparsed none)
  | .found directories =>
    Action.debug (openedText fileName content.length)
    return .ok (← Action.addImage ⟨some fileName, .parsed (some directories) view handle⟩)

/-- Opens a content. -/
def openContent (content : Bytes) : Action (Except Refusal (Ref .image)) :=
  parse "" content (.memory content) none

/-- Opens the file at a path and maps it. -/
def openMapped (path : Path) : Action (Except Refusal (Ref .image)) := do
  match (← get).disk.read path with
  | .error f => return .error (unreadable path f)
  | .ok content =>
    let handle ← addHandle path
    if content.isEmpty then
      Images.closeHandle handle
      return .error (unreadable path .emptyMap)
    let map ← addMapping path content
    parse path.toString content (.mapped map) (some handle)

/-- Reads the file at a path. -/
def openRead (path : Path) : Action (Except Refusal (Ref .image)) := do
  match (← get).disk.read path with
  | .error f => return .error (unreadable path f)
  | .ok content => parse path.toString content (.memory content) none

/-- Opens a path or a content. -/
def openTarget (target : Target) (mapped : Bool) : Action (Except Refusal (Ref .image)) :=
  match target with
  | .content content => openContent content
  | .path text =>
    let path := Path.ofString text
    if mapped then openMapped path else openRead path

/-- Opens whatever a caller gives. -/
def openSource (source : ImageSource) (mapped : Bool) : Action (Except Refusal (Ref .image)) :=
  match source with
  | .target t => openTarget t mapped
  | .other kind => throw (.notPath kind)

end Opening

end PEInspect
