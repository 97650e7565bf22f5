import PEInspect.Proofs.Loading.Inversion

/-!
# What loading does not see

Two worlds are twins for an image if they differ at most in what is open of files, in the images, and
in what has been called and noted, and the image gives the same answers in both. An action is blind
if it runs to the same result from twins, leaves worlds that are alike, and leaves the images and
everything open alone, so that its worlds are twins again. Blindness composes (`Blind.bind`), and all
that a loader does with an opened image is blind (`blind_classify`).
-/

namespace PEInspect

namespace Images

/-- A data directory of an image. -/
def directoryOf (i : Image) (index : Int) : Except Failure DataDirectory :=
  match i.body with
  | .scripted directories _ => .ok (scriptedEntry directories index)
  | .parsed none _ _ => .error (.noMember "NoneType" "data_directories")
  | .parsed (some directories) _ _ => entry directories index

/-- The bytes of an image over some maps. -/
def contentOf (mappings : Arena .mapping Mapping) (i : Image) : Except Failure Bytes :=
  match i.body with
  | .scripted _ content => .ok content
  | .parsed _ (.memory content) _ => .ok content
  | .parsed _ (.mapped map) _ =>
    if (mappings.get map).closings = 0 then .ok (mappings.get map).content else .error .closedMap

open PEInspect.Action

/-- Asking an image for its bytes changes nothing. -/
lemma runs_content (i : Ref .image) (w : World) :
    (content i).Runs w (contentOf w.mappings (w.images.get i)) w := by
  refine .bind (runs_image i w) ?_
  rw [contentOf]
  cases (w.images.get i).body with
  | scripted directories content => exact runs_pure _ w
  | parsed directories view handle =>
    cases view with
    | memory content => exact runs_pure _ w
    | mapped map =>
      refine .bind (runs_get w) ?_
      dsimp only
      by_cases open_ : (w.mappings.get map).closings = 0
      · rw [if_pos open_, if_pos open_]
        exact runs_pure _ w
      · rw [if_neg open_, if_neg open_]
        rfl

/-- The size of an image is the length of its bytes, and asking for it changes nothing. -/
lemma runs_size (i : Ref .image) (w : World) :
    (size i).Runs w ((contentOf w.mappings (w.images.get i)).map List.length) w := by
  have run := runs_content i w
  cases bytes : contentOf w.mappings (w.images.get i) with
  | error f =>
    rw [bytes] at run
    exact .bind_error run
  | ok content =>
    rw [bytes] at run
    exact .bind run (runs_pure _ w)

/-- A scripted image announces that it is asked for a directory. -/
lemma exists_directory (i : Ref .image) (index : Int) (w : World) :
    ∃ trace, (directory i index).Runs w (directoryOf (w.images.get i) index)
      { w with trace := trace } := by
  have image := runs_image i w
  rw [directoryOf]
  cases body : (w.images.get i).body with
  | scripted directories content =>
    refine ⟨w.trace ++ [.directoryRead index], .bind image ?_⟩
    rw [body]
    exact .bind (runs_emit _ w) (runs_pure _ _)
  | parsed directories view handle =>
    refine ⟨w.trace, .bind image ?_⟩
    rw [body]
    cases directories with
    | none => rfl
    | some directories => exact runs_ofExcept _ w

end Images

namespace World

/-- The world with other images, other open files, and other calls and notices. -/
def altered (w : World) (handles : Arena .handle FileHandle) (mappings : Arena .mapping Mapping)
    (images : Arena .image Image) (trace : List Event) (log : List Notice) : World :=
  { w with
    handles := handles
    mappings := mappings
    images := images
    trace := trace
    log := log }

/-- Two worlds differ at most in images, in what is open of files, and in calls and notices. -/
def Alike (v u : World) : Prop :=
  ∃ handles mappings images trace log, u = v.altered handles mappings images trace log

/-- Two worlds are alike, and an image gives the same answers in both. -/
structure Twins (i : Ref .image) (v u : World) : Prop where
  alike : Alike v u
  fileName : (u.images.get i).fileName = (v.images.get i).fileName
  directory : ∀ index, Images.directoryOf (u.images.get i) index =
    Images.directoryOf (v.images.get i) index
  content : Images.contentOf u.mappings (u.images.get i) =
    Images.contentOf v.mappings (v.images.get i)

/-- The images and what is open of files are those of another world. -/
structure SameImages (w v : World) : Prop where
  images : v.images = w.images
  mappings : v.mappings = w.mappings
  handles : v.handles = w.handles

/-- A world has the images of itself. -/
lemma SameImages.refl (w : World) : SameImages w w := ⟨rfl, rfl, rfl⟩

/-- Worlds with the same images as one in between have the same images. -/
lemma SameImages.trans {w v u : World} (first : SameImages w v) (second : SameImages v u) :
    SameImages w u :=
  ⟨second.images.trans first.images, second.mappings.trans first.mappings,
    second.handles.trans first.handles⟩

/-- Worlds that are alike have the same files, modules and metadata. -/
lemma Alike.kept {v u : World} (alike : Alike v u) :
    u.files = v.files ∧ u.modules = v.modules ∧ u.metadata = v.metadata := by
  obtain ⟨_, _, _, _, _, rfl⟩ := alike
  exact ⟨rfl, rfl, rfl⟩

/-- Worlds that are alike stay twins while the images do. -/
lemma Twins.step {i : Ref .image} {v u v' u' : World} (twins : Twins i v u) (alike : Alike v' u')
    (left : SameImages v v') (right : SameImages u u') : Twins i v' u' := by
  refine ⟨alike, ?_, ?_, ?_⟩
  · rw [left.images, right.images]
    exact twins.fileName
  · rw [left.images, right.images]
    exact twins.directory
  · rw [left.images, right.images, left.mappings, right.mappings]
    exact twins.content

end World

namespace Action

open World

variable {α β : Type} {i : Ref .image}

/-- An action runs to the same result from twins, leaves worlds that are alike, and leaves images and
everything open alone. -/
def Blind (i : Ref .image) (action : Action α) : Prop :=
  ∀ ⦃v u⦄, Twins i v u → ∃ r v' u', action.Runs v r v' ∧ action.Runs u r u' ∧ Alike v' u' ∧
    SameImages v v' ∧ SameImages u u'

/-- Blind actions in a row are blind. -/
lemma Blind.bind {action : Action α} {next : α → Action β} (first : Blind i action)
    (second : ∀ x, Blind i (next x)) : Blind i (action >>= next) := by
  intro v u twins
  obtain ⟨r, v', u', runV, runU, alike, left, right⟩ := first twins
  cases r with
  | error f => exact ⟨_, _, _, .bind_error runV, .bind_error runU, alike, left, right⟩
  | ok x =>
    obtain ⟨r, v'', u'', runV', runU', alike', left', right'⟩ :=
      second x (twins.step alike left right)
    exact ⟨r, v'', u'', .bind runV runV', .bind runU runU', alike', left.trans left',
      right.trans right'⟩

/-- What follows a look at the world is blind if it does not depend on what twins differ in. -/
lemma Blind.get {next : World → Action β}
    (same : ∀ (w : World) handles mappings images trace log,
      next (w.altered handles mappings images trace log) = next w)
    (blind : ∀ w, Blind i (next w)) : Blind i (get >>= next) := by
  intro v u twins
  obtain ⟨r, v', u', runV, runU, rest⟩ := blind v twins
  have again : next u = next v := by
    obtain ⟨_, _, _, _, _, rfl⟩ := twins.alike
    exact same _ _ _ _ _ _
  rw [← again] at runU
  exact ⟨r, v', u', .bind (runs_get v) runV, .bind (runs_get u) runU, rest⟩

/-- An action that only reads is blind if it reads what twins share. -/
lemma blind_of_reads {action : Action α} {r : World → Except Failure α}
    (run : ∀ w, action.Runs w (r w) w) (same : ∀ {v u}, Twins i v u → r u = r v) :
    Blind i action := by
  intro v u twins
  have other := run u
  rw [same twins] at other
  exact ⟨_, v, u, run v, other, twins.alike, .refl v, .refl u⟩

/-- An action that changes worlds in the same way is blind if it leaves images alone. -/
lemma blind_of_runs {action : Action α} {r : World → Except Failure α} {g : World → World}
    (run : ∀ w, action.Runs w (r w) (g w))
    (same : ∀ (w : World) handles mappings images trace log,
      r (w.altered handles mappings images trace log) = r w ∧
        Alike (g w) (g (w.altered handles mappings images trace log)))
    (left : ∀ w, SameImages w (g w)) : Blind i action := by
  intro v u twins
  have other := run u
  obtain ⟨_, _, _, _, _, rfl⟩ := twins.alike
  obtain ⟨result, alike⟩ := same v _ _ _ _ _
  rw [result] at other
  exact ⟨_, _, _, run v, other, alike, left v, left _⟩

/-! ## Small actions -/

/-- Doing nothing is blind. -/
lemma blind_pure (x : α) : Blind i (pure x) :=
  blind_of_reads (runs_pure x) fun _ => rfl

/-- A pure result is blind. -/
lemma blind_ofExcept (result : Except Failure α) : Blind i (ofExcept result) :=
  blind_of_reads (runs_ofExcept result) fun _ => rfl

/-- Attempting a blind action is blind. -/
lemma Blind.attempt {action : Action α} (blind : Blind i action) : Blind i (attempt action) := by
  intro v u twins
  obtain ⟨r, v', u', runV, runU, rest⟩ := blind twins
  exact ⟨_, v', u', runV.attempt, runU.attempt, rest⟩

/-- A report sees no image. -/
lemma blind_ofReport (report : Report α) : Blind i (ofReport report) :=
  blind_of_runs (runs_ofReport report) (fun _ _ _ _ _ _ => ⟨rfl, _, _, _, _, _, rfl⟩)
    fun _ => ⟨rfl, rfl, rfl⟩

/-- A notice sees no image. -/
lemma blind_debug (text : String) : Blind i (debug text) :=
  blind_of_runs (runs_debug text) (fun _ _ _ _ _ _ => ⟨rfl, _, _, _, _, _, rfl⟩)
    fun _ => ⟨rfl, rfl, rfl⟩

/-- A call that is recorded sees no image. -/
lemma blind_emit (event : Event) : Blind i (emit event) :=
  blind_of_runs (runs_emit event) (fun _ _ _ _ _ _ => ⟨rfl, _, _, _, _, _, rfl⟩)
    fun _ => ⟨rfl, rfl, rfl⟩

/-- Looking at a module sees no image. -/
lemma blind_managedModule (m : Ref .module) : Blind i (managedModule m) := by
  refine blind_of_reads (runs_managedModule m) ?_
  rintro v u ⟨⟨_, _, _, _, _, rfl⟩, -⟩
  rfl

/-- Changing a module sees no image. -/
lemma blind_changeModule (m : Ref .module) (f : ManagedModule → ManagedModule) :
    Blind i (changeModule m f) :=
  blind_of_runs (runs_changeModule m f) (fun _ _ _ _ _ _ => ⟨rfl, _, _, _, _, _, rfl⟩)
    fun _ => ⟨rfl, rfl, rfl⟩

/-- Making a module sees no image. -/
lemma blind_addModule (m : ManagedModule) : Blind i (addModule m) :=
  blind_of_runs (runs_addModule m) (fun _ _ _ _ _ _ => ⟨rfl, _, _, _, _, _, rfl⟩)
    fun _ => ⟨rfl, rfl, rfl⟩

/-- Making a context sees no image. -/
lemma blind_addContext (c : ModuleContext) : Blind i (addContext c) :=
  blind_of_runs (runs_addContext c) (fun _ _ _ _ _ _ => ⟨rfl, _, _, _, _, _, rfl⟩)
    fun _ => ⟨rfl, rfl, rfl⟩

/-- Taking metadata into care sees no image. -/
lemma blind_addMetadata (m : OpenMetadata) : Blind i (addMetadata m) :=
  blind_of_runs (runs_addMetadata m) (fun _ _ _ _ _ _ => ⟨rfl, _, _, _, _, _, rfl⟩)
    fun _ => ⟨rfl, rfl, rfl⟩

/-- Making a file sees no image. -/
lemma blind_addFile (f : LoadedFile) : Blind i (addFile f) :=
  blind_of_runs (runs_addFile f) (fun _ _ _ _ _ _ => ⟨rfl, _, _, _, _, _, rfl⟩)
    fun _ => ⟨rfl, rfl, rfl⟩

/-- What follows a look at the image is blind if it depends on nothing but its file name. -/
lemma blind_image {next : Image → Action β}
    (same : ∀ {x y : Image}, y.fileName = x.fileName → next y = next x)
    (blind : ∀ x, Blind i (next x)) : Blind i (image i >>= next) := by
  intro v u twins
  obtain ⟨r, v', u', runV, runU, rest⟩ := blind (v.images.get i) twins
  rw [← same twins.fileName] at runU
  exact ⟨r, v', u', .bind (runs_image i v) runV, .bind (runs_image i u) runU, rest⟩

end Action

namespace Images

open PEInspect.Action

variable {i : Ref .image}

/-- The bytes of an image are the same in both forms. -/
lemma blind_content : Blind i (content i) :=
  blind_of_reads (runs_content i) World.Twins.content

/-- The size of an image is the same in both forms. -/
lemma blind_size : Blind i (size i) :=
  blind_content.bind fun _ => blind_pure _

/-- The directories of an image are the same in both forms. -/
lemma blind_directory (index : Int) : Blind i (directory i index) := by
  intro v u twins
  obtain ⟨trace, runV⟩ := exists_directory i index v
  obtain ⟨trace', runU⟩ := exists_directory i index u
  rw [twins.directory] at runU
  obtain ⟨_, _, _, _, _, rfl⟩ := twins.alike
  exact ⟨_, _, _, runV, runU, ⟨_, _, _, _, _, rfl⟩, ⟨rfl, rfl, rfl⟩, ⟨rfl, rfl, rfl⟩⟩

/-- Whether an image is managed is the same in both forms. -/
lemma blind_isManaged : Blind i (isManaged i) :=
  (blind_directory _).bind fun _ => blind_pure _

end Images

namespace Modules

open PEInspect.Action

variable {i : Ref .image}

/-- Looking at metadata sees no image. -/
lemma blind_metadata (r : Ref .metadata) : Blind i (metadata r) :=
  Blind.get (fun _ _ _ _ _ _ => rfl) fun _ => blind_pure _

/-- The name of a module sees no image. -/
lemma blind_name (m : Ref .module) : Blind i (name m) := by
  refine (blind_managedModule m).bind fun x => ?_
  cases x.body with
  | scripted script => exact blind_pure _
  | parsed r lookup => exact (blind_metadata r).bind fun _ => blind_ofExcept _

/-- The assembly of a module sees no image. -/
lemma blind_assembly (m : Ref .module) : Blind i (assembly m) := by
  refine (blind_managedModule m).bind fun x => ?_
  cases x.body with
  | scripted script => exact blind_pure _
  | parsed r lookup => exact (blind_metadata r).bind fun _ => blind_ofExcept _

/-- The types of a module see no image. -/
lemma blind_types (m : Ref .module) : Blind i (types m) := by
  refine (blind_managedModule m).bind fun x => ?_
  cases x.body with
  | scripted script => exact blind_ofExcept (.error _)
  | parsed r lookup => exact (blind_metadata r).bind fun _ => blind_ofExcept _

/-- Switching a type index sees no image. -/
lemma blind_switchLookup (m : Ref .module) (enabled : Bool) : Blind i (switchLookup m enabled) := by
  refine (blind_managedModule m).bind fun x => ?_
  cases x.body with
  | scripted script => exact blind_emit _
  | parsed r lookup => exact blind_changeModule m _

/-- Closing metadata sees no image. -/
lemma blind_closeMetadata (r : Ref .metadata) : Blind i (closeMetadata r) :=
  blind_of_runs (runs_closeMetadata r) (fun _ _ _ _ _ _ => ⟨rfl, _, _, _, _, _, rfl⟩)
    fun _ => ⟨rfl, rfl, rfl⟩

/-- Reading symbols sees no image. -/
lemma blind_loadSymbols (m : Ref .module) (path : Path) : Blind i (loadSymbols m path) := by
  refine Blind.get (fun _ _ _ _ _ _ => rfl) fun w => (blind_ofReport _).bind fun result => ?_
  cases result with
  | ok symbols => exact (blind_changeModule m _).bind fun _ => blind_pure _
  | error refusal => exact blind_pure _

end Modules

namespace Parsing

open PEInspect.Action

variable {i : Ref .image}

/-- Reading metadata sees no image. -/
lemma blind_load (content : Bytes) : Blind i (load content) := by
  refine Blind.get (fun _ _ _ _ _ _ => rfl) fun w => (blind_emit _).bind fun _ => ?_
  cases w.metadataParser.parse content with
  | raised text => exact blind_pure _
  | opened m =>
    refine (blind_addMetadata _).bind fun r => ?_
    cases missing? m with
    | some refusal => exact (Modules.blind_closeMetadata r).bind fun _ => blind_pure _
    | none => exact blind_pure _

/-- Parsing a module sees of its image only what is the same in both forms. -/
lemma blind_parseImage (context : Option (Ref .context)) : Blind i (parseImage i context) := by
  refine Images.blind_content.attempt.bind fun result => ?_
  cases result with
  | error cause =>
    exact Blind.get (fun _ _ _ _ _ _ => rfl) fun _ => blind_pure _
  | ok content =>
    refine (blind_load content).bind fun result => ?_
    cases result with
    | error refusal => exact blind_pure _
    | ok metadata =>
      refine blind_image ?_ fun x => (blind_addModule _).bind fun _ => blind_pure _
      intro x y same
      rw [same]

end Parsing

namespace Files

open PEInspect.Action

variable {i : Ref .image}

/-- Building a file sees no image. -/
lemma blind_build (backing : Backing) (path : String) (key : Option FileKey) (persistable : Bool) :
    Blind i (build backing path key persistable) := by
  refine Blind.bind ?_ fun _ => blind_addFile _
  cases backing with
  | module m => exact Modules.blind_name m
  | _ => exact blind_pure _

/-- A file over an image sees of it only what is the same in both forms. -/
lemma blind_ofImage (key : Option FileKey) (persistable : Bool) :
    Blind i (ofImage i key persistable) := by
  refine blind_image ?_ fun x => blind_build _ _ _ _
  intro x y same
  rw [same]

/-- A file over a module sees no image. -/
lemma blind_ofModule (m : Ref .module) (key : Option FileKey) (persistable : Bool) :
    Blind i (ofModule m key persistable) :=
  (Modules.blind_switchLookup m true).bind fun _ =>
    (blind_managedModule m).bind fun _ => blind_build _ _ _ _

end Files

namespace Loading

open PEInspect.Action

variable {i : Ref .image}

/-- Looking for symbols sees no image. -/
lemma blind_attachFrom (l : Loader) (m : Ref .module) (location : String) :
    Blind i (attachFrom l m location) := by
  refine (blind_ofExcept _).bind fun found => ?_
  cases found with
  | none => exact blind_debug _
  | some candidate =>
    refine Blind.get (fun _ _ _ _ _ _ => rfl) fun w => (blind_ofExcept _).bind fun present => ?_
    cases present with
    | false => exact blind_debug _
    | true =>
      refine (Modules.blind_loadSymbols m candidate).bind fun result => ?_
      cases result with
      | error refusal => exact blind_debug _
      | ok symbols => exact blind_pure _

/-- The symbol step sees no image. -/
lemma blind_attachSymbols (l : Loader) (m : Ref .module) : Blind i (attachSymbols l m) := by
  refine (blind_managedModule m).bind fun x => ?_
  dsimp only
  split
  · exact blind_pure _
  · exact blind_attachFrom l m _

/-- Wrapping a module sees no image. -/
lemma blind_wrapModule (l : Loader) (m : Ref .module) (symbols : Bool) (key : Option FileKey) :
    Blind i (wrapModule l m symbols key) := by
  refine (Files.blind_ofModule m key true).bind fun f => ?_
  cases symbols with
  | true => exact (blind_attachSymbols l m).bind fun _ => blind_pure f
  | false => exact blind_pure f

/-- A loader that parses a module sees of its image only what is the same in both forms. -/
lemma blind_parseModule (l : Loader) (context : Ref .context) :
    Blind i (parseModule l i context) := by
  rw [parseModule]
  cases l.modules with
  | standard => exact Parsing.blind_parseImage _
  | scripted script =>
    refine blind_image ?_ fun x => (blind_emit _).bind fun _ => ?_
    · intro x y same
      rw [same]
    · cases script with
      | some script => exact (blind_addModule _).bind fun _ => blind_pure _
      | none =>
        exact Blind.get (fun _ _ _ _ _ _ => rfl) fun _ => blind_pure _

/-- A loader sees nothing of an opened image but its answers. -/
lemma blind_classify (l : Loader) (label : String) (symbols : Bool)
    (resolver : Option (Ref .resolver)) (key : Option FileKey) :
    Blind i (classify l label i symbols resolver key) := by
  refine Images.blind_isManaged.bind fun managed => ?_
  cases managed with
  | false => exact (blind_debug _).bind fun _ => Files.blind_ofImage key true
  | true =>
    refine (blind_addContext _).bind fun context =>
      (blind_parseModule l context).bind fun result => ?_
    cases result with
    | ok m =>
      exact (Modules.blind_name m).bind fun _ => (blind_debug _).bind fun _ =>
        blind_wrapModule l m symbols key
    | error refusal => exact (blind_debug _).bind fun _ => Files.blind_ofImage key true

end Loading

end PEInspect
