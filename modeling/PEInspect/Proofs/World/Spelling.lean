import PEInspect.Proofs.Metadata.Spelling
import PEInspect.Proofs.Parsing.Inversion
import PEInspect.Proofs.World.Arena
import PEInspect.World.Loading

/-!
# Worlds with all texts spelled out

A world is spelled out if the metadata that are open are, together with those that its reader will
open. An action is uniform if from there it comes to the same result, and to the world after it
spelled out. Uniformity composes (`Uniform.bind`), and whatever is done with modules and files is
uniform, from opening a path to closing what it became: metadata are asked for their views alone, and
the views do not change when metadata are spelled out.
-/

namespace PEInspect

/-! ## Worlds that differ in spelling -/

structure OpenMetadata.Respells (x y : OpenMetadata) : Prop where
  content : x.content.Respells y.content
  rest : y = { x with content := y.content }

/-- Two worlds differ at most in how texts are spelled, in the metadata that are open and in those that
their readers will open. -/
structure World.Respells (v u : World) : Prop where
  metadata : List.Forall₂ OpenMetadata.Respells v.metadata.cells u.metadata.cells
  parse : ∀ content, (v.metadataParser.parse content).Respells (u.metadataParser.parse content)
  announced : u.metadataParser.announced = v.metadataParser.announced
  rest : u = { v with metadataParser := u.metadataParser, metadata := u.metadata }

def OpenMetadata.spelledOut (o : OpenMetadata) : OpenMetadata :=
  { o with content := o.content.spelledOut }

def MetadataParser.spelledOut (p : MetadataParser) : MetadataParser :=
  { p with parse := fun content => (p.parse content).spelledOut }

def World.spelledOut (w : World) : World :=
  { w with
    metadataParser := w.metadataParser.spelledOut
    metadata := w.metadata.map OpenMetadata.spelledOut }

/-- Open metadata are spelled out as their respellings are. -/
lemma OpenMetadata.Respells.spelledOut {x y : OpenMetadata} (respells : x.Respells y) :
    y.spelledOut = x.spelledOut := by
  obtain ⟨content, rest⟩ := respells
  rw [OpenMetadata.spelledOut, content.spelledOut, rest]
  rfl

namespace World

/-- A world is spelled out as its respelling is. -/
lemma Respells.spelledOut {v u : World} (respells : v.Respells u) :
    u.spelledOut = v.spelledOut := by
  obtain ⟨metadata, parse, announced, rest⟩ := respells
  have parser : u.metadataParser.spelledOut = v.metadataParser.spelledOut := by
    rw [MetadataParser.spelledOut, MetadataParser.spelledOut, announced]
    exact congrArg (MetadataParser.mk · _) (funext fun content => (parse content).spelledOut)
  have cells : u.metadata.map OpenMetadata.spelledOut = v.metadata.map OpenMetadata.spelledOut :=
    congrArg Arena.mk (map_eq_of_forall₂ (fun _ _ o => o.spelledOut) metadata)
  calc u.spelledOut
      = { v with
          metadataParser := u.metadataParser.spelledOut
          metadata := u.metadata.map OpenMetadata.spelledOut } := congrArg World.spelledOut rest
    _ = v.spelledOut := by
        rw [parser, cells]
        rfl

variable (w : World)

/-- The metadata of a world that is spelled out are spelled out. -/
lemma get_spelledOut (r : Ref .metadata) :
    w.spelledOut.metadata.get r = (w.metadata.get r).spelledOut :=
  w.metadata.get_map rfl r

/-- Spelling out does not change which metadata come next. -/
lemma next_spelledOut : w.spelledOut.metadata.next = w.metadata.next :=
  congrArg Ref.mk (List.length_map _)

/-- A change that commutes with spelling out does so in a world. -/
lemma change_spelledOut (r : Ref .metadata) (g h : OpenMetadata → OpenMetadata)
    (same : ∀ o, h o.spelledOut = (g o).spelledOut) :
    { w.spelledOut with metadata := w.spelledOut.metadata.change r h } =
      { w with metadata := w.metadata.change r g : World }.spelledOut := by
  have changed : (w.metadata.change r g).map OpenMetadata.spelledOut =
      (w.metadata.map OpenMetadata.spelledOut).change r h :=
    w.metadata.map_change rfl (fun o => (same o).symm) r
  simp only [spelledOut, changed]

/-- Closing metadata commutes with spelling out. -/
lemma closedMetadata_spelledOut (r : Ref .metadata) :
    w.spelledOut.closedMetadata r = (w.closedMetadata r).spelledOut := by
  have closed := change_spelledOut (w.called (.metadataClosed r (w.metadata.get r).announced)) r
    (fun o => { o with closings := o.closings + 1 }) (fun o => { o with closings := o.closings + 1 })
    fun _ => rfl
  rw [closedMetadata, w.get_spelledOut]
  exact closed

/-- Metadata that are opened are spelled out with the world. -/
lemma withMetadata_spelledOut (o : OpenMetadata) :
    w.spelledOut.withMetadata o.spelledOut = (w.withMetadata o).spelledOut := by
  have added : (w.metadata.add o).map OpenMetadata.spelledOut =
      (w.metadata.map OpenMetadata.spelledOut).add o.spelledOut := congrArg Arena.mk List.map_append
  simp only [withMetadata, spelledOut, added]

end World

/-- Metadata that are spelled out lack the same. -/
lemma Parsing.missing?_spelledOut (m : Metadata) : missing? m.spelledOut = missing? m := by
  cases m with
  | tables t =>
    show missing? (.tables t.spelledOut) = _
    rw [missing?, missing?, Tables.spelledOut, RowTable.rows_map, List.isEmpty_map]
  | _ => rfl

/-! ## Uniform actions -/

namespace Action

variable {α β : Type}

/-- From a world that is spelled out, an action comes to the same. -/
def Uniform (action : Action α) : Prop :=
  ∀ w, action.outcome w.spelledOut = ((action.outcome w).1, (action.outcome w).2.spelledOut)

/-- Uniform actions in a row are uniform. -/
lemma Uniform.bind {action : Action α} {next : α → Action β} (first : Uniform action)
    (rest : ∀ x, Uniform (next x)) : Uniform (action >>= next) := by
  intro w
  rw [outcome_bind, outcome_bind, first w]
  rcases action.outcome w with ⟨_ | x, v⟩
  · rfl
  · exact rest x v

/-- What follows a look at the world is uniform if it does not depend on how texts are spelled. -/
lemma Uniform.get {next : World → Action β} (same : ∀ w : World, next w.spelledOut = next w)
    (rest : ∀ w, Uniform (next w)) : Uniform (get >>= next) := by
  intro w
  rw [outcome_bind, outcome_bind, outcome_get, outcome_get]
  show (next w.spelledOut).outcome w.spelledOut = _
  rw [same]
  exact rest w w

/-- A function of the result of a uniform action is uniform. -/
lemma Uniform.map {action : Action α} (uniform : Uniform action) (f : α → β) :
    Uniform (f <$> action) := by
  intro w
  rw [outcome_map, outcome_map, uniform w]

/-- An action is uniform if its result and its effect are. -/
lemma uniform_of_runs {action : Action α} {r : World → Except Failure α} {g : World → World}
    (run : ∀ w, action.Runs w (r w) (g w))
    (same : ∀ w : World, r w.spelledOut = r w ∧ g w.spelledOut = (g w).spelledOut) :
    Uniform action := by
  intro w
  rw [run w, run w.spelledOut, (same w).1, (same w).2]

/-- Doing nothing is uniform. -/
lemma uniform_pure (x : α) : Uniform (pure x) :=
  fun _ => rfl

/-- Failing is uniform. -/
lemma uniform_throw (f : Failure) : Uniform (throw f : Action α) :=
  fun _ => rfl

/-- A change that commutes with spelling out is uniform. -/
lemma uniform_modify {change : World → World}
    (same : ∀ w : World, change w.spelledOut = (change w).spelledOut) : Uniform (modify change) :=
  fun w => congrArg (Prod.mk _) (same w)

/-- Recording a call is uniform. -/
lemma uniform_emit (event : Event) : Uniform (emit event) :=
  fun _ => rfl

/-- Writing a notice is uniform. -/
lemma uniform_debug (text : String) : Uniform (debug text) :=
  fun _ => rfl

/-- A pure result is uniform. -/
lemma uniform_ofExcept (result : Except Failure α) : Uniform (ofExcept result) := by
  cases result <;> exact fun _ => rfl

/-- A report is uniform. -/
lemma uniform_ofReport (report : Report α) : Uniform (ofReport report) :=
  .bind (uniform_modify fun _ => rfl) fun _ => uniform_ofExcept _

/-- Attempting a uniform action is uniform. -/
lemma Uniform.attempt {action : Action α} (uniform : Uniform action) :
    Uniform (attempt action) := by
  intro w
  rw [outcome_attempt, outcome_attempt, uniform w]

/-- Looking at an image is uniform. -/
lemma uniform_image (r : Ref .image) : Uniform (image r) :=
  fun _ => rfl

/-- Looking at a module is uniform. -/
lemma uniform_managedModule (r : Ref .module) : Uniform (managedModule r) :=
  fun _ => rfl

/-- Changing a module is uniform. -/
lemma uniform_changeModule (r : Ref .module) (f : ManagedModule → ManagedModule) :
    Uniform (changeModule r f) :=
  uniform_modify fun _ => rfl

/-- Looking at a file is uniform. -/
lemma uniform_file (r : Ref .file) : Uniform (file r) :=
  fun _ => rfl

/-- Changing a file is uniform. -/
lemma uniform_changeFile (r : Ref .file) (f : LoadedFile → LoadedFile) :
    Uniform (changeFile r f) :=
  uniform_modify fun _ => rfl

/-- An action on what may be missing is uniform if it is on what is there. -/
lemma uniform_mapM {f : α → Action β} (uniform : ∀ x, Uniform (f x)) (o : Option α) :
    Uniform (o.mapM f) := by
  cases o with
  | none => exact uniform_pure none
  | some x => exact (uniform x).map some

end Action

open PEInspect.Action

namespace Images

/-- Letting go of a view is uniform. -/
lemma uniform_release (view : View) (handle : Option (Ref .handle)) :
    Uniform (release view handle) :=
  uniform_of_runs (runs_release view handle) fun _ => ⟨rfl, rfl⟩

/-- Asking for the bytes of an image is uniform. -/
lemma uniform_content (r : Ref .image) : Uniform (content r) := by
  refine .bind (uniform_image r) fun i => ?_
  cases i.body with
  | scripted directories content => exact uniform_pure _
  | parsed directories view handle =>
    cases view with
    | memory content => exact uniform_pure _
    | mapped map =>
      refine .get (fun _ => rfl) fun w => ?_
      dsimp only
      split
      · exact uniform_pure _
      · exact uniform_throw _

/-- Asking for the size of an image is uniform. -/
lemma uniform_size (r : Ref .image) : Uniform (size r) :=
  .bind (uniform_content r) fun _ => uniform_pure _

/-- Asking whether an image is managed is uniform. -/
lemma uniform_isManaged (r : Ref .image) : Uniform (isManaged r) := by
  refine .bind (.bind (uniform_image r) fun i => ?_) fun _ => uniform_pure _
  split
  · exact .bind (uniform_emit _) fun _ => uniform_pure _
  · exact uniform_throw _
  · exact uniform_ofExcept _

/-- Closing an image is uniform. -/
lemma uniform_close (r : Ref .image) : Uniform (close r) := by
  refine .bind (uniform_image r) fun i => ?_
  cases i.body with
  | scripted directories content => exact uniform_emit _
  | parsed directories view handle =>
    exact .bind (uniform_emit _) fun _ =>
      .bind (uniform_release view handle) fun _ => uniform_modify fun _ => rfl

end Images

namespace Opening

/-- Making an image of a content is uniform. -/
lemma uniform_parse (fileName : String) (content : Bytes) (view : View)
    (handle : Option (Ref .handle)) : Uniform (parse fileName content view handle) := by
  have refuse (refusal : Refusal) :
      Uniform (do
        Images.release view handle
        return (.error refusal : Except Refusal (Ref .image))) :=
    .bind (Images.uniform_release view handle) fun _ => uniform_pure _
  rw [parse]
  split
  · exact refuse _
  · refine .bind (uniform_of_runs (runs_parseHeaders _) fun _ => ⟨rfl, rfl⟩) fun outcome => ?_
    cases outcome with
    | raised text => exact refuse _
    | rejected => exact refuse _
    | found directories =>
      exact .bind (uniform_debug _) fun _ => .bind (fun _ => rfl) fun _ => uniform_pure _

/-- Opening a path or a content is uniform. -/
lemma uniform_openTarget (target : Target) (mapped : Bool) :
    Uniform (openTarget target mapped) := by
  cases target with
  | content content => exact uniform_parse _ _ _ _
  | path text =>
    cases mapped with
    | false =>
      refine .get (fun _ => rfl) fun w => ?_
      split
      · exact uniform_pure _
      · exact uniform_parse _ _ _ _
    | true =>
      refine .get (fun _ => rfl) fun w => ?_
      split
      · exact uniform_pure _
      · refine .bind (fun _ => rfl) fun handle => ?_
        split
        · exact .bind (fun _ => rfl) fun _ => uniform_pure _
        · exact .bind (fun _ => rfl) fun map => uniform_parse _ _ _ _

end Opening

namespace Modules

/-- What is asked of metadata is uniform if it comes out the same when they are spelled out. -/
lemma uniform_view {view : Metadata → Except Failure α} (same : ∀ m, view m.spelledOut = view m)
    (r : Ref .metadata) : Uniform (do Action.ofExcept (view (← metadata r))) := by
  have run (w : World) : (do Action.ofExcept (view (← metadata r))).Runs w
      (view (w.metadata.get r).content) w :=
    .bind (.bind (runs_get w) (runs_pure _ w)) (runs_ofExcept _ w)
  refine uniform_of_runs run fun w => ⟨?_, rfl⟩
  rw [w.get_spelledOut]
  exact same _

/-- Asking for the name of a module is uniform. -/
lemma uniform_name (r : Ref .module) : Uniform (name r) := by
  refine .bind (uniform_managedModule r) fun m => ?_
  cases m.body with
  | scripted script => exact uniform_pure _
  | parsed md lookup => exact uniform_view Metadata.moduleName_spelledOut md

/-- Asking for the assembly of a module is uniform. -/
lemma uniform_assembly (r : Ref .module) : Uniform (assembly r) := by
  refine .bind (uniform_managedModule r) fun m => ?_
  cases m.body with
  | scripted script => exact uniform_pure _
  | parsed md lookup => exact uniform_view Metadata.assembly_spelledOut md

/-- Asking for the types of a module is uniform. -/
lemma uniform_types (r : Ref .module) : Uniform (types r) := by
  refine .bind (uniform_managedModule r) fun m => ?_
  cases m.body with
  | scripted script => exact uniform_throw _
  | parsed md lookup => exact uniform_view Metadata.typeList_spelledOut md

/-- Switching a type index is uniform. -/
lemma uniform_switchLookup (r : Ref .module) (enabled : Bool) :
    Uniform (switchLookup r enabled) := by
  refine .bind (uniform_managedModule r) fun m => ?_
  cases m.body with
  | scripted script => exact uniform_emit _
  | parsed md lookup => exact uniform_changeModule r _

/-- Finding out what a search has to look at is uniform. -/
lemma uniform_searched (m : Ref .metadata) (lookup : TypeLookup) :
    Uniform (searched m lookup) := by
  rw [searched]
  split
  · exact uniform_pure _
  · exact uniform_view Metadata.typeList_spelledOut m

/-- A search finds the same, through the index or by a scan. -/
lemma uniform_findType (r : Ref .module) (space name : String) :
    Uniform (findType r space name) := by
  refine .bind (uniform_managedModule r) fun m => ?_
  cases m.body with
  | scripted script => exact .bind (uniform_emit _) fun _ => uniform_pure _
  | parsed md lookup =>
    refine .bind (uniform_changeModule r _) fun _ => .bind (uniform_searched md lookup) fun types => ?_
    exact .bind (uniform_changeModule r _) fun _ => uniform_pure _

/-- Closing metadata is uniform. -/
lemma uniform_closeMetadata (r : Ref .metadata) : Uniform (closeMetadata r) :=
  uniform_of_runs (runs_closeMetadata r) fun w => ⟨rfl, w.closedMetadata_spelledOut r⟩

/-- Closing a module is uniform. -/
lemma uniform_close (r : Ref .module) : Uniform (close r) := by
  refine .bind (uniform_managedModule r) fun m => ?_
  have image : Uniform (closeImage m.image) := by
    cases m.image with
    | none => exact uniform_pure ()
    | some i => exact Images.uniform_close i
  cases m.body with
  | scripted script => exact .bind (uniform_emit _) fun _ => image
  | parsed md lookup =>
    exact .bind (uniform_closeMetadata md) fun _ => .bind (uniform_changeModule r _) fun _ => image

/-- Reading symbols is uniform. -/
lemma uniform_loadSymbols (r : Ref .module) (path : Path) : Uniform (loadSymbols r path) := by
  refine .get (fun _ => rfl) fun w => .bind (uniform_ofReport _) fun result => ?_
  cases result with
  | ok symbols => exact .bind (uniform_changeModule r _) fun _ => uniform_pure _
  | error refusal => exact .bind (uniform_pure ()) fun _ => uniform_pure _

end Modules

namespace Parsing

/-- What is opened of a content lacks the same when it is spelled out. -/
lemma uniform_load (content : Bytes) : Uniform (load content) := by
  intro w
  have answer' : w.spelledOut.metadataParser.parse content =
      (w.metadataParser.parse content).spelledOut := rfl
  cases answer : w.metadataParser.parse content with
  | raised text =>
    rw [answer] at answer'
    rw [runs_load_raised answer, runs_load_raised answer']
    rfl
  | opened m =>
    rw [answer] at answer'
    -- What the reader gives is taken into care spelled out.
    have opened : (readCall w.spelledOut content).withMetadata (opening w.spelledOut m.spelledOut) =
        ((readCall w content).withMetadata (opening w m)).spelledOut :=
      (readCall w content).withMetadata_spelledOut (opening w m)
    cases lack : missing? m with
    | some refusal =>
      have lack' := (missing?_spelledOut m).trans lack
      rw [runs_load_incomplete answer lack, runs_load_incomplete answer' lack', opened,
        w.next_spelledOut, World.closedMetadata_spelledOut]
    | none =>
      have full' := (missing?_spelledOut m).trans lack
      rw [runs_load_complete answer lack, runs_load_complete answer' full', opened,
        w.next_spelledOut]

/-- Parsing a module out of an image is uniform. -/
lemma uniform_parseImage (image : Ref .image) (context : Option (Ref .context)) :
    Uniform (parseImage image context) := by
  refine .bind (Images.uniform_content image).attempt fun result => ?_
  cases result with
  | error cause => exact uniform_pure _
  | ok content =>
    refine .bind (uniform_load content) fun result => ?_
    cases result with
    | error refusal => exact uniform_pure _
    | ok metadata =>
      exact .bind (uniform_image image) fun _ => .bind (fun _ => rfl) fun _ => uniform_pure _

/-- Parsing a module out of a content is uniform. -/
lemma uniform_parseBytes (content : Bytes) (location : Option String)
    (context : Option (Ref .context)) : Uniform (parseBytes content location context) := by
  refine .bind (uniform_load content) fun result => ?_
  cases result with
  | error refusal => exact uniform_pure _
  | ok metadata => exact .bind (fun _ => rfl) fun _ => uniform_pure _

end Parsing

namespace Files

/-- Asking a backing for its default name is uniform. -/
lemma uniform_defaultName (backing : Backing) : Uniform (defaultName backing) := by
  cases backing with
  | module m => exact Modules.uniform_name m
  | _ => exact uniform_pure ""

/-- Building a file is uniform. -/
lemma uniform_build (backing : Backing) (path : String) (key : Option FileKey)
    (persistable : Bool) : Uniform (build backing path key persistable) :=
  .bind (uniform_defaultName backing) fun _ => fun _ => rfl

/-- Making a file of an image is uniform. -/
lemma uniform_ofImage (image : Ref .image) (key : Option FileKey) (persistable : Bool) :
    Uniform (ofImage image key persistable) :=
  .bind (uniform_image image) fun _ => uniform_build _ _ _ _

/-- Making a file of a module is uniform. -/
lemma uniform_ofModule (m : Ref .module) (key : Option FileKey) (persistable : Bool) :
    Uniform (ofModule m key persistable) :=
  .bind (Modules.uniform_switchLookup m true) fun _ =>
    .bind (uniform_managedModule m) fun _ => uniform_build _ _ _ _

/-- Assigning a path is uniform. -/
lemma uniform_setPath (f : Ref .file) (path : String) : Uniform (setPath f path) := by
  refine .bind (uniform_file f) fun x => ?_
  dsimp only
  -- What a refusal stops is not reached.
  split
  · exact fun _ => rfl
  split
  · exact fun _ => rfl
  · exact .bind (uniform_changeFile f _) fun _ => .bind (uniform_defaultName _) fun _ =>
      uniform_changeFile f _

/-- Collecting the facts about a file is uniform. -/
lemma uniform_info (f : Ref .file) : Uniform (info f) := by
  refine .bind (uniform_file f) fun x => ?_
  have assembly : Uniform (assemblyOf? x.backing) := by
    cases x.backing with
    | module m => exact Modules.uniform_assembly m
    | _ => exact uniform_pure none
  have image : Uniform (imageOf? x.backing) := by
    cases x.backing with
    | module m => exact .bind (uniform_managedModule m) fun _ => uniform_pure _
    | _ => exact uniform_pure _
  exact .bind assembly fun _ => .bind image fun _ =>
    .bind (uniform_mapM Modules.uniform_name _) fun _ =>
    .bind (uniform_mapM (fun m => .bind (uniform_managedModule m) fun _ => uniform_pure _) _) fun _ =>
    .bind (uniform_mapM Images.uniform_size _) fun _ => uniform_pure _

/-- Closing a file is uniform. -/
lemma uniform_close (f : Ref .file) : Uniform (close f) := by
  refine .bind (uniform_file f) fun x => ?_
  cases x.backing with
  | unrecognized => exact uniform_pure ()
  | image i => exact .bind (uniform_debug _) fun _ => Images.uniform_close i
  | module m => exact .bind (uniform_debug _) fun _ => Modules.uniform_close m

end Files

namespace Loading

variable (l : Loader)

/-- A loader opens images uniformly. -/
lemma uniform_openImage (target : Target) (mapped : Document.Value) :
    Uniform (openImage l target mapped) := by
  rw [openImage]
  cases l.images with
  | standard => exact Opening.uniform_openTarget target _
  | scripted image =>
    refine .bind (uniform_emit _) fun _ => ?_
    cases image with
    | none => exact uniform_pure _
    | some i => exact .bind (fun _ => rfl) fun _ => uniform_pure _

/-- A loader parses modules uniformly. -/
lemma uniform_parseModule (image : Ref .image) (context : Ref .context) :
    Uniform (parseModule l image context) := by
  rw [parseModule]
  cases l.modules with
  | standard => exact Parsing.uniform_parseImage image _
  | scripted script =>
    refine .bind (uniform_image image) fun _ => .bind (uniform_emit _) fun _ => ?_
    cases script with
    | none => exact .get (fun _ => rfl) fun _ => uniform_pure _
    | some script => exact .bind (fun _ => rfl) fun _ => uniform_pure _

/-- Looking for symbols is uniform. -/
lemma uniform_attachFrom (m : Ref .module) (location : String) :
    Uniform (attachFrom l m location) := by
  refine .bind (uniform_ofExcept _) fun found => ?_
  cases found with
  | none => exact uniform_debug _
  | some candidate =>
    refine .get (fun _ => rfl) fun w => .bind (uniform_ofExcept _) fun there => ?_
    cases there with
    | false => exact uniform_debug _
    | true =>
      refine .bind (Modules.uniform_loadSymbols m candidate) fun result => ?_
      cases result with
      | error refusal => exact uniform_debug _
      | ok symbols => exact uniform_pure ()

/-- Wrapping a module is uniform. -/
lemma uniform_wrapModule (m : Ref .module) (symbols : Bool) (key : Option FileKey) :
    Uniform (wrapModule l m symbols key) := by
  refine .bind (Files.uniform_ofModule m key true) fun f => ?_
  cases symbols with
  | false => exact uniform_pure f
  | true =>
    refine .bind (.bind (uniform_managedModule m) fun x => ?_) fun _ => uniform_pure f
    dsimp only
    split
    · exact uniform_pure ()
    · exact uniform_attachFrom l m _

variable (symbols : Bool) (resolver : Option (Ref .resolver)) (key : Option FileKey)

/-- Classifying an image is uniform. -/
lemma uniform_classify (label : String) (image : Ref .image) :
    Uniform (classify l label image symbols resolver key) := by
  refine .bind (Images.uniform_isManaged image) fun managed => ?_
  cases managed with
  | false => exact .bind (uniform_debug _) fun _ => Files.uniform_ofImage image key true
  | true =>
    refine .bind (fun _ => rfl) fun context =>
      .bind (uniform_parseModule l image context) fun result => ?_
    cases result with
    | ok m =>
      exact .bind (Modules.uniform_name m) fun _ => .bind (uniform_debug _) fun _ =>
        uniform_wrapModule l m symbols key
    | error refusal =>
      exact .bind (uniform_debug _) fun _ => Files.uniform_ofImage image key true

/-- Loading comes to the same file, however the metadata on the way are spelled. -/
lemma uniform_fromSource (source : ImageSource) (mapped : Document.Value) :
    Uniform (fromSource l source mapped symbols resolver key) := by
  cases source with
  | other kind => exact uniform_throw _
  | target target =>
    refine .bind (uniform_openImage l target mapped) fun result => ?_
    cases result with
    | ok image => exact uniform_classify l symbols resolver key _ image
    | error refusal =>
      exact .bind (uniform_debug _) fun _ => .bind (uniform_ofExcept _) fun _ =>
        Files.uniform_build _ _ _ _

/-- Loading a module is uniform. -/
lemma uniform_fromModule (m : Ref .module) : Uniform (fromModule l m symbols resolver key) :=
  .bind (fun _ => rfl) fun _ =>
    .bind (uniform_changeModule m _) fun _ => uniform_wrapModule l m symbols key

end Loading

end PEInspect
