import PEInspect.Session.Command

/-!
# Commands on images

Images that are made as they are told to, and images that are opened. An image gets its name before
it is shown.
-/

namespace PEInspect

namespace Turn

/-- Makes an image as it is told to. -/
def scriptImage (id : String) (fileName : Option String) (body : ImageBody) : Turn Reply := do
  let r ← act (Action.addImage ⟨fileName, body⟩)
  register id (.image r)
  return .image (← viewImage r)

/-- Opens an image. -/
def openImage (id : String) (source : ImageSource) (mapped : Bool) : Turn Reply := do
  match ← act (Opening.openSource source mapped) with
  | .error refusal => return .opened (.error refusal)
  | .ok r =>
    register id (.image r)
    return .opened (.ok (← viewImage r))

end Turn

end PEInspect
