import Mathlib.Tactic.Lemma
import PEInspect.World.Loading

/-!
# Effects

The changes that actions make to a world, each with a name of its own, and the outcomes of the small
actions in terms of them. Relations between a world and the one after an action are stated with
these changes, and a simplifier sees through them to the parts of the world that stay.
-/

namespace PEInspect

namespace World

/-- A notice is written. -/
@[simp] def noted (w : World) (text : String) : World :=
  { w with log := w.log ++ [⟨.debug, text⟩] }

@[simp] def called (w : World) (event : Event) : World :=
  { w with trace := w.trace ++ [event] }

/-- The header parser is called; its own log has been silenced by then. -/
@[simp] def headersParsed (w : World) (source : HeaderSource) : World :=
  { w with
    headerLogSilenced := true
    trace := w.trace ++
      (if w.headerLogSilenced then [] else [.headerLogSilenced w.headerParser.announced]) ++
      [.headersParsed source w.headerParser.announced] }

@[simp] def withHandle (w : World) (path : Path) : World :=
  { w with handles := w.handles.add ⟨path.toString, 0⟩ }

@[simp] def withMapping (w : World) (path : Path) (content : Bytes) : World :=
  { w with mappings := w.mappings.add { content := content, file := w.disk.placeOf? path } }

@[simp] def withMetadata (w : World) (m : OpenMetadata) : World :=
  { w with metadata := w.metadata.add m }

@[simp] def withImage (w : World) (i : Image) : World :=
  { w with images := w.images.add i }

@[simp] def withContext (w : World) (c : ModuleContext) : World :=
  { w with contexts := w.contexts.add c }

@[simp] def withModule (w : World) (m : ManagedModule) : World :=
  { w with modules := w.modules.add m }

@[simp] def withFile (w : World) (f : LoadedFile) : World :=
  { w with files := w.files.add f }

/-- A handle is closed. -/
@[simp] def closedHandle (w : World) (r : Ref .handle) : World :=
  { w with
    trace := w.trace ++ [.handleClosed r]
    handles := w.handles.change r fun h => { h with closings := h.closings + 1 } }

/-- The calls after a view and the handle below it have been let go, behind the calls before: a map
is closed before its handle. -/
def releasing (trace : List Event) (view : View) (handle : Option (Ref .handle)) : List Event :=
  let unmapped := match view with
    | .mapped map => trace ++ [.mapClosed map]
    | .memory _ => trace
  match handle with
  | some h => unmapped ++ [.handleClosed h]
  | none => unmapped

/-- A view and the handle below it are let go. -/
@[simp] def released (w : World) (view : View) (handle : Option (Ref .handle)) : World :=
  { w with
    trace := releasing w.trace view handle
    mappings := match view with
      | .mapped map => w.mappings.change map fun m => { m with closings := m.closings + 1 }
      | .memory _ => w.mappings
    handles := match handle with
      | some h => w.handles.change h fun h => { h with closings := h.closings + 1 }
      | none => w.handles }

@[simp] def closedMetadata (w : World) (r : Ref .metadata) : World :=
  { w with
    trace := w.trace ++ [.metadataClosed r (w.metadata.get r).announced]
    metadata := w.metadata.change r fun o => { o with closings := o.closings + 1 } }

@[simp] def changedModule (w : World) (r : Ref .module) (f : ManagedModule → ManagedModule) :
    World :=
  { w with modules := w.modules.change r f }

@[simp] def changedFile (w : World) (r : Ref .file) (f : LoadedFile → LoadedFile) : World :=
  { w with files := w.files.change r f }

/-- The module that has been made stands behind the next reference. -/
lemma get_withModule (w : World) (m : ManagedModule) :
    (w.withModule m).modules.get w.modules.next = m :=
  Arena.get_add_next _ _

/-- The file that has been made stands behind the next reference of any world with the same files. -/
lemma get_withFile {w v : World} (f : LoadedFile) (same : v.files = w.files) :
    (v.withFile f).files.get w.files.next = f := by
  rw [← same]
  exact Arena.get_add_next _ _

end World

namespace Action

variable {α β : Type}

/-- An action runs from a world to a result and the world after it. -/
def Runs (action : Action α) (w : World) (result : Except Failure α) (v : World) : Prop :=
  action.outcome w = (result, v)

/-- An action runs in one way only. -/
lemma Runs.unique {action : Action α} {w r r' v v'}
    (run : action.Runs w r v) (run' : action.Runs w r' v') : r = r' ∧ v = v' := by
  have e : (r, v) = (r', v') := run.symm.trans run'
  cases e
  exact ⟨rfl, rfl⟩

/-- An action after a successful one runs from the world that the first leaves. -/
lemma Runs.bind {action : Action α} {next : α → Action β} {w x v r u}
    (first : action.Runs w (.ok x) v) (second : (next x).Runs v r u) :
    (action >>= next).Runs w r u := by
  rw [Runs, outcome_bind, first]
  exact second

/-- An action after a failing one does not run. -/
lemma Runs.bind_error {action : Action α} {next : α → Action β} {w f v}
    (first : action.Runs w (.error f) v) : (action >>= next).Runs w (.error f) v := by
  rw [Runs, outcome_bind, first]

/-- An action stops at its first step, or goes on where that succeeds. -/
lemma Runs.bind_cases {action : Action α} {next : α → Action β} {w r u}
    (run : (action >>= next).Runs w r u) :
    (∃ f, action.Runs w (.error f) u ∧ r = .error f) ∨
      ∃ x v, action.Runs w (.ok x) v ∧ (next x).Runs v r u := by
  rw [Runs, outcome_bind] at run
  rcases first : action.outcome w with ⟨f | x, v⟩
  · rw [first] at run
    cases run
    exact .inl ⟨f, first, rfl⟩
  · rw [first] at run
    exact .inr ⟨x, v, first, run⟩

/-- An action that succeeds has succeeded on the way. -/
lemma Runs.bind_ok {action : Action α} {next : α → Action β} {w y u}
    (run : (action >>= next).Runs w (.ok y) u) :
    ∃ x v, action.Runs w (.ok x) v ∧ (next x).Runs v (.ok y) u := by
  obtain ⟨f, -, failed⟩ | done := run.bind_cases
  · cases failed
  · exact done

/-- Doing nothing changes nothing. -/
lemma runs_pure (x : α) (w : World) : Runs (pure x) w (.ok x) w := rfl

/-- A pure result changes nothing. -/
lemma runs_ofExcept (result : Except Failure α) (w : World) :
    Runs (ofExcept result) w result w :=
  outcome_ofExcept result w

/-- A report leaves its notices. -/
lemma runs_ofReport (report : Report α) (w : World) :
    (ofReport report).Runs w report.outcome.1 { w with log := w.log ++ report.outcome.2 } := by
  rcases run : report.outcome with ⟨result, notices⟩
  rw [ofReport, run]
  exact .bind rfl (runs_ofExcept result _)

/-- Looking at the world changes nothing. -/
lemma runs_get (w : World) : Runs get w (.ok w) w := rfl

/-- A notice is written. -/
lemma runs_debug (text : String) (w : World) : (debug text).Runs w (.ok ()) (w.noted text) := rfl

/-- A call is recorded. -/
lemma runs_emit (event : Event) (w : World) : (emit event).Runs w (.ok ()) (w.called event) := rfl

/-- An attempt succeeds with the result of the action. -/
lemma Runs.attempt {action : Action α} {w r v} (run : action.Runs w r v) :
    (attempt action).Runs w (.ok r) v := by
  rw [Runs, outcome_attempt, run]

/-- A function of a result is applied to it once the action has run. -/
lemma outcome_map (f : α → β) (action : Action α) (w : World) :
    (f <$> action).outcome w = ((action.outcome w).1.map f, (action.outcome w).2) := by
  rw [← bind_pure_comp, outcome_bind]
  rcases action.outcome w with ⟨_ | _, _⟩ <;> rfl

/-- A function of a result does not change how an action runs. -/
lemma runs_map (f : α → β) {action : Action α} {w v : World} {r} (run : action.Runs w r v) :
    (f <$> action).Runs w (r.map f) v := by
  rw [Runs, outcome_map, run]

/-- The image behind a reference is looked up. -/
lemma runs_image (r : Ref .image) (w : World) : (image r).Runs w (.ok (w.images.get r)) w := rfl

/-- The module behind a reference is looked up. -/
lemma runs_managedModule (r : Ref .module) (w : World) :
    (managedModule r).Runs w (.ok (w.modules.get r)) w := rfl

/-- The file behind a reference is looked up. -/
lemma runs_file (r : Ref .file) (w : World) : (file r).Runs w (.ok (w.files.get r)) w := rfl

/-- An image is made behind the next reference. -/
lemma runs_addImage (i : Image) (w : World) :
    (addImage i).Runs w (.ok w.images.next) (w.withImage i) := rfl

/-- A module is made behind the next reference. -/
lemma runs_addModule (m : ManagedModule) (w : World) :
    (addModule m).Runs w (.ok w.modules.next) (w.withModule m) := rfl

/-- A context is made behind the next reference. -/
lemma runs_addContext (c : ModuleContext) (w : World) :
    (addContext c).Runs w (.ok w.contexts.next) (w.withContext c) := rfl

/-- Metadata are taken into care behind the next reference. -/
lemma runs_addMetadata (m : OpenMetadata) (w : World) :
    (addMetadata m).Runs w (.ok w.metadata.next) (w.withMetadata m) := rfl

/-- A file is made behind the next reference. -/
lemma runs_addFile (f : LoadedFile) (w : World) :
    (addFile f).Runs w (.ok w.files.next) (w.withFile f) := rfl

/-- A file is changed. -/
lemma runs_changeFile (r : Ref .file) (f : LoadedFile → LoadedFile) (w : World) :
    (changeFile r f).Runs w (.ok ()) (w.changedFile r f) := rfl

/-- A module is changed. -/
lemma runs_changeModule (r : Ref .module) (f : ManagedModule → ManagedModule) (w : World) :
    (changeModule r f).Runs w (.ok ()) (w.changedModule r f) := rfl

end Action

namespace Images

open PEInspect.Action

/-- A handle is closed. -/
lemma runs_closeHandle (r : Ref .handle) (w : World) :
    (closeHandle r).Runs w (.ok ()) (w.closedHandle r) := rfl

/-- Letting go of a view closes the map in it and the handle below. -/
lemma runs_release (view : View) (handle : Option (Ref .handle)) (w : World) :
    (release view handle).Runs w (.ok ()) (w.released view handle) := by
  cases view <;> cases handle <;> rfl

/-- Closing an image always succeeds, and changes neither files nor modules nor metadata. -/
lemma exists_close (i : Ref .image) (w : World) :
    ∃ v, (close i).Runs w (.ok ()) v ∧ v.files = w.files ∧ v.modules = w.modules ∧
      v.metadata = w.metadata := by
  have image := runs_image i w
  cases body : (w.images.get i).body with
  | scripted directories content =>
    refine ⟨w.called (.imageClosed (w.images.get i).fileName), .bind image ?_, rfl, rfl, rfl⟩
    rw [body]
    exact runs_emit _ w
  | parsed directories view handle =>
    refine ⟨{ (w.called (.imageReleased i)).released view handle with
      images := w.images.change i fun x => { x with body := .parsed none view none } },
      .bind image ?_, rfl, rfl, rfl⟩
    rw [body]
    exact .bind (runs_emit _ w) (.bind (runs_release view handle _) rfl)

end Images

namespace Modules

open PEInspect.Action

/-- Metadata are closed. -/
lemma runs_closeMetadata (r : Ref .metadata) (w : World) :
    (closeMetadata r).Runs w (.ok ()) (w.closedMetadata r) := rfl

/-- Closing the image of a module always succeeds, and changes neither files nor modules nor
metadata. -/
lemma exists_closeImage (image : Option (Ref .image)) (w : World) :
    ∃ v, (closeImage image).Runs w (.ok ()) v ∧ v.files = w.files ∧ v.modules = w.modules ∧
      v.metadata = w.metadata := by
  cases image with
  | none => exact ⟨w, runs_pure () w, rfl, rfl, rfl⟩
  | some i => exact Images.exists_close i w

section AddType

variable {w : World} {r : Ref .module} {md : Ref .metadata} {lookup : TypeLookup} {row : TypeRow}

/-- A row that the metadata of a module refuse changes nothing. -/
lemma runs_addType_refused {f} (body : (w.modules.get r).body = .parsed md lookup)
    (refused : (w.metadata.get md).content.addType row = .error f) :
    (addType r row).Runs w (.error f) w := by
  have stop : (Action.ofExcept ((w.metadata.get md).content.addType row)).Runs w (.error f) w := by
    rw [refused]
    exact runs_ofExcept _ w
  refine .bind (runs_managedModule r w) ?_
  rw [body]
  exact .bind (.bind (runs_get w) (runs_pure _ w)) (.bind_error stop)

/-- A row that metadata take is added to them. -/
lemma runs_addType_added {content} (body : (w.modules.get r).body = .parsed md lookup)
    (added : (w.metadata.get md).content.addType row = .ok content) :
    (addType r row).Runs w (content.typeList.map List.length)
      { w with metadata := w.metadata.change md fun o => { o with content := content } } := by
  have step : (Action.ofExcept ((w.metadata.get md).content.addType row)).Runs w (.ok content) w := by
    rw [added]
    exact runs_ofExcept _ w
  refine .bind (runs_managedModule r w) ?_
  rw [body]
  refine .bind (.bind (runs_get w) (runs_pure _ w)) (.bind step (.bind rfl ?_))
  exact runs_map List.length (runs_ofExcept content.typeList _)

end AddType

end Modules

namespace Opening

open PEInspect.Action

/-- A handle is made behind the next reference. -/
lemma runs_addHandle (path : Path) (w : World) :
    (addHandle path).Runs w (.ok w.handles.next) (w.withHandle path) := rfl

/-- A map is made behind the next reference. -/
lemma runs_addMapping (path : Path) (content : Bytes) (w : World) :
    (addMapping path content).Runs w (.ok w.mappings.next) (w.withMapping path content) := rfl

/-- Silencing the header parser's log when that has been done already does nothing. -/
lemma runs_silence_again {w : World} (silenced : w.headerLogSilenced = true) :
    silence.Runs w (.ok ()) w := by
  refine .bind (runs_get w) ?_
  rw [silenced]
  exact runs_pure () w

/-- Silencing the header parser's log for the first time is recorded. -/
lemma runs_silence_first {w : World} (loud : w.headerLogSilenced = false) :
    silence.Runs w (.ok ())
      { w.called (.headerLogSilenced w.headerParser.announced) with headerLogSilenced := true } := by
  refine .bind (runs_get w) ?_
  rw [loud]
  exact .bind (runs_emit _ w) rfl

/-- Calling the header parser silences its log first, if that has not been done before. -/
lemma runs_parseHeaders (source : HeaderSource) (w : World) :
    (parseHeaders source).Runs w (.ok (w.headerParser.parse source)) (w.headersParsed source) := by
  cases silenced : w.headerLogSilenced with
  | true =>
    have same : w.called (.headersParsed source w.headerParser.announced)
        = w.headersParsed source := by
      cases w
      cases silenced
      simp
    rw [← same]
    exact .bind (runs_silence_again silenced) (.bind (runs_get w) (.bind (runs_emit _ w) rfl))
  | false =>
    have same : World.called
        { w.called (.headerLogSilenced w.headerParser.announced) with headerLogSilenced := true }
        (.headersParsed source w.headerParser.announced) = w.headersParsed source := by
      simp [silenced]
    rw [← same]
    exact .bind (runs_silence_first silenced) (.bind (runs_get _) (.bind (runs_emit _ _) rfl))

end Opening

end PEInspect
