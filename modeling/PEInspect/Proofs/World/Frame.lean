import PEInspect.Proofs.World.Effects

/-!
# The disk under loading

Loading reads the disk and never writes to it: whatever is loaded, with or without symbols, through
the standard openers or through scripted ones, and whether or not it fails (`keepsDisk_fromTarget`,
`keepsDisk_fromModule`). An action keeps the disk if its steps do, so each lemma follows the steps of
its action.
-/

namespace PEInspect

namespace Action

variable {α β : Type}

/-- An action leaves the disk as it is, whatever it comes to. -/
def KeepsDisk (action : Action α) : Prop :=
  ∀ w, (action.outcome w).2.disk = w.disk

/-- Actions in a row leave the disk alone if each of them does. -/
lemma KeepsDisk.bind {action : Action α} {next : α → Action β} (first : KeepsDisk action)
    (rest : ∀ x, KeepsDisk (next x)) : KeepsDisk (action >>= next) := by
  intro w
  have same := first w
  rw [outcome_bind]
  rcases e : action.outcome w with ⟨_ | x, v⟩ <;> rw [e] at same
  · exact same
  · exact (rest x v).trans same

/-- The disk after an action that leaves it alone is the disk before. -/
lemma KeepsDisk.runs {action : Action α} (keeps : KeepsDisk action) {w v : World} {r}
    (run : action.Runs w r v) : v.disk = w.disk :=
  (congrArg (World.disk ∘ Prod.snd) run).symm.trans (keeps w)

/-- Doing nothing leaves the disk alone. -/
lemma keepsDisk_pure (x : α) : KeepsDisk (pure x) :=
  fun _ => rfl

/-- Looking at the world leaves the disk alone. -/
lemma keepsDisk_get : KeepsDisk get :=
  fun _ => rfl

/-- A change of other parts leaves the disk alone. -/
lemma keepsDisk_modify {change : World → World} (same : ∀ w, (change w).disk = w.disk) :
    KeepsDisk (modify change) :=
  same

/-- A call that is recorded leaves the disk alone. -/
lemma keepsDisk_emit (event : Event) : KeepsDisk (emit event) :=
  keepsDisk_modify fun _ => rfl

/-- A notice leaves the disk alone. -/
lemma keepsDisk_debug (text : String) : KeepsDisk (debug text) :=
  keepsDisk_modify fun _ => rfl

/-- A pure result leaves the disk alone. -/
lemma keepsDisk_ofExcept (result : Except Failure α) : KeepsDisk (ofExcept result) := by
  cases result <;> exact fun _ => rfl

/-- A report leaves the disk alone. -/
lemma keepsDisk_ofReport (report : Report α) : KeepsDisk (ofReport report) :=
  .bind (keepsDisk_modify fun _ => rfl) fun _ => keepsDisk_ofExcept _

/-- An attempt leaves the disk alone if the action does. -/
lemma KeepsDisk.attempt {action : Action α} (keeps : KeepsDisk action) :
    KeepsDisk (attempt action) :=
  keeps

/-- Looking at an image leaves the disk alone. -/
lemma keepsDisk_image (r : Ref .image) : KeepsDisk (image r) :=
  .bind keepsDisk_get fun _ => keepsDisk_pure _

/-- Looking at a module leaves the disk alone. -/
lemma keepsDisk_managedModule (r : Ref .module) : KeepsDisk (managedModule r) :=
  .bind keepsDisk_get fun _ => keepsDisk_pure _

/-- Changing a module leaves the disk alone. -/
lemma keepsDisk_changeModule (r : Ref .module) (f : ManagedModule → ManagedModule) :
    KeepsDisk (changeModule r f) :=
  keepsDisk_modify fun _ => rfl

end Action

open PEInspect.Action

namespace Images

/-- Letting go of a view leaves the disk alone. -/
lemma keepsDisk_release (view : View) (handle : Option (Ref .handle)) :
    KeepsDisk (release view handle) := by
  intro w
  exact congrArg (World.disk ∘ Prod.snd) (runs_release view handle w)

/-- Asking for the bytes of an image leaves the disk alone. -/
lemma keepsDisk_content (r : Ref .image) : KeepsDisk (content r) := by
  refine .bind (keepsDisk_image r) fun i => ?_
  split
  · exact keepsDisk_pure _
  · rename_i view handle body
    cases view with
    | memory content => exact keepsDisk_pure content
    | mapped map =>
      refine .bind keepsDisk_get fun w => ?_
      dsimp only
      split
      · exact keepsDisk_pure _
      · exact fun _ => rfl

/-- Asking whether an image is managed leaves the disk alone. -/
lemma keepsDisk_isManaged (r : Ref .image) : KeepsDisk (isManaged r) := by
  refine .bind (.bind (keepsDisk_image r) fun i => ?_) fun _ => keepsDisk_pure _
  split
  · exact .bind (keepsDisk_emit _) fun _ => keepsDisk_pure _
  · exact fun _ => rfl
  · exact keepsDisk_ofExcept _

end Images

namespace Opening

/-- Parsing headers leaves the disk alone. -/
lemma keepsDisk_parseHeaders (source : HeaderSource) : KeepsDisk (parseHeaders source) := by
  intro w
  exact congrArg (World.disk ∘ Prod.snd) (runs_parseHeaders source w)

/-- Making an image of a content leaves the disk alone. -/
lemma keepsDisk_parse (fileName : String) (content : Bytes) (view : View)
    (handle : Option (Ref .handle)) : KeepsDisk (parse fileName content view handle) := by
  have refuse (refusal : Refusal) :
      KeepsDisk (do
        Images.release view handle
        return (.error refusal : Except Refusal (Ref .image))) :=
    .bind (Images.keepsDisk_release view handle) fun _ => keepsDisk_pure _
  rw [parse]
  split
  · exact refuse _
  · refine .bind (keepsDisk_parseHeaders _) fun outcome => ?_
    split
    · exact refuse _
    · exact refuse _
    · exact .bind (keepsDisk_debug _) fun _ => fun _ => rfl

/-- Opening a path or a content leaves the disk alone. -/
lemma keepsDisk_openTarget (target : Target) (mapped : Bool) :
    KeepsDisk (openTarget target mapped) := by
  cases target with
  | content content => exact keepsDisk_parse _ _ _ _
  | path text =>
    cases mapped with
    | false =>
      refine .bind keepsDisk_get fun w => ?_
      split
      · exact keepsDisk_pure _
      · exact keepsDisk_parse _ _ _ _
    | true =>
      refine .bind keepsDisk_get fun w => ?_
      split
      · exact keepsDisk_pure _
      · refine .bind (fun _ => rfl) fun handle => ?_
        split
        · exact .bind (fun _ => rfl) fun _ => keepsDisk_pure _
        · exact .bind (fun _ => rfl) fun map => keepsDisk_parse _ _ _ _

end Opening

namespace Modules

/-- Asking for the name of a module leaves the disk alone. -/
lemma keepsDisk_name (r : Ref .module) : KeepsDisk (name r) := by
  refine .bind (keepsDisk_managedModule r) fun m => ?_
  split
  · exact keepsDisk_pure _
  · exact .bind (.bind keepsDisk_get fun _ => keepsDisk_pure _) fun _ => keepsDisk_ofExcept _

/-- Switching a type index leaves the disk alone. -/
lemma keepsDisk_switchLookup (r : Ref .module) (enabled : Bool) :
    KeepsDisk (switchLookup r enabled) := by
  refine .bind (keepsDisk_managedModule r) fun m => ?_
  split
  · exact keepsDisk_emit _
  · exact keepsDisk_changeModule _ _

/-- Reading symbols leaves the disk alone. -/
lemma keepsDisk_loadSymbols (r : Ref .module) (path : Path) : KeepsDisk (loadSymbols r path) := by
  refine .bind keepsDisk_get fun w => .bind (keepsDisk_ofReport _) fun result => ?_
  split
  · exact .bind (keepsDisk_changeModule _ _) fun _ => keepsDisk_pure _
  · exact .bind (keepsDisk_pure ()) fun _ => keepsDisk_pure _

end Modules

namespace Parsing

/-- Reading metadata leaves the disk alone. -/
lemma keepsDisk_load (content : Bytes) : KeepsDisk (load content) := by
  refine .bind keepsDisk_get fun w => .bind (keepsDisk_emit _) fun _ => ?_
  split
  · exact keepsDisk_pure _
  · refine .bind (fun _ => rfl) fun r => ?_
    split
    · exact .bind (fun _ => rfl) fun _ => keepsDisk_pure _
    · exact keepsDisk_pure _

/-- Parsing a module leaves the disk alone. -/
lemma keepsDisk_parseImage (image : Ref .image) (context : Option (Ref .context)) :
    KeepsDisk (parseImage image context) := by
  refine .bind (Images.keepsDisk_content image).attempt fun result => ?_
  split
  · exact .bind keepsDisk_get fun _ => keepsDisk_pure _
  · refine .bind (keepsDisk_load _) fun result => ?_
    split
    · exact keepsDisk_pure _
    · exact .bind (keepsDisk_image _) fun _ => .bind (fun _ => rfl) fun _ => keepsDisk_pure _

end Parsing

namespace Files

/-- Building a file leaves the disk alone. -/
lemma keepsDisk_build (backing : Backing) (path : String) (key : Option FileKey)
    (persistable : Bool) : KeepsDisk (build backing path key persistable) := by
  refine .bind ?_ fun _ => fun _ => rfl
  rw [defaultName]
  split
  · exact keepsDisk_pure _
  · exact Modules.keepsDisk_name _

/-- Making a file of an image leaves the disk alone. -/
lemma keepsDisk_ofImage (image : Ref .image) (key : Option FileKey) (persistable : Bool) :
    KeepsDisk (ofImage image key persistable) :=
  .bind (keepsDisk_image image) fun _ => keepsDisk_build _ _ _ _

/-- Making a file of a module leaves the disk alone. -/
lemma keepsDisk_ofModule (m : Ref .module) (key : Option FileKey) (persistable : Bool) :
    KeepsDisk (ofModule m key persistable) :=
  .bind (Modules.keepsDisk_switchLookup m true) fun _ =>
    .bind (keepsDisk_managedModule m) fun _ => keepsDisk_build _ _ _ _

end Files

namespace Loading

variable (l : Loader)

/-- A loader that opens an image leaves the disk alone. -/
lemma keepsDisk_openImage (target : Target) (mapped : Document.Value) :
    KeepsDisk (openImage l target mapped) := by
  rw [openImage]
  split
  · exact Opening.keepsDisk_openTarget target _
  · refine .bind (keepsDisk_emit _) fun _ => ?_
    split
    · exact keepsDisk_pure _
    · exact .bind (fun _ => rfl) fun _ => keepsDisk_pure _

/-- A loader that parses a module leaves the disk alone. -/
lemma keepsDisk_parseModule (image : Ref .image) (context : Ref .context) :
    KeepsDisk (parseModule l image context) := by
  rw [parseModule]
  split
  · exact Parsing.keepsDisk_parseImage image _
  · refine .bind (keepsDisk_image image) fun _ => .bind (keepsDisk_emit _) fun _ => ?_
    split
    · exact .bind keepsDisk_get fun _ => keepsDisk_pure _
    · exact .bind (fun _ => rfl) fun _ => keepsDisk_pure _

/-- The symbol step leaves the disk alone. -/
lemma keepsDisk_attachSymbols (m : Ref .module) : KeepsDisk (attachSymbols l m) := by
  refine .bind (keepsDisk_managedModule m) fun module => ?_
  dsimp only
  split
  · exact keepsDisk_pure _
  · refine .bind (keepsDisk_ofExcept _) fun found => ?_
    split
    · exact keepsDisk_debug _
    · refine .bind keepsDisk_get fun _ => .bind (keepsDisk_ofExcept _) fun there => ?_
      split
      · refine .bind (Modules.keepsDisk_loadSymbols m _) fun result => ?_
        split
        · exact keepsDisk_debug _
        · exact keepsDisk_pure _
      · exact keepsDisk_debug _

/-- Wrapping a module leaves the disk alone. -/
lemma keepsDisk_wrapModule (m : Ref .module) (symbols : Bool) (key : Option FileKey) :
    KeepsDisk (wrapModule l m symbols key) := by
  refine .bind (Files.keepsDisk_ofModule m key true) fun f => ?_
  cases symbols with
  | false => exact keepsDisk_pure _
  | true => exact .bind (keepsDisk_attachSymbols l m) fun _ => keepsDisk_pure _

variable (symbols : Bool) (resolver : Option (Ref .resolver)) (key : Option FileKey)

/-- Classifying an image leaves the disk alone. -/
lemma keepsDisk_classify (label : String) (image : Ref .image) :
    KeepsDisk (classify l label image symbols resolver key) := by
  refine .bind (Images.keepsDisk_isManaged image) fun managed => ?_
  split
  · refine .bind (fun _ => rfl) fun context =>
      .bind (keepsDisk_parseModule l image context) fun result => ?_
    split
    · exact .bind (Modules.keepsDisk_name _) fun _ => .bind (keepsDisk_debug _) fun _ =>
        keepsDisk_wrapModule l _ symbols key
    · exact .bind (keepsDisk_debug _) fun _ => Files.keepsDisk_ofImage image key true
  · exact .bind (keepsDisk_debug _) fun _ => Files.keepsDisk_ofImage image key true

/-- Loading a path or a content leaves the disk as it is. -/
lemma keepsDisk_fromTarget (target : Target) (mapped : Document.Value) :
    KeepsDisk (fromTarget l target mapped symbols resolver key) := by
  refine .bind (keepsDisk_openImage l target mapped) fun result => ?_
  split
  · exact .bind (keepsDisk_debug _) fun _ => .bind (keepsDisk_ofExcept _) fun _ =>
      Files.keepsDisk_build _ _ _ _
  · exact keepsDisk_classify l symbols resolver key _ _

/-- Loading a module leaves the disk alone. -/
lemma keepsDisk_fromModule (m : Ref .module) :
    KeepsDisk (fromModule l m symbols resolver key) :=
  .bind (fun _ => rfl) fun _ =>
    .bind (keepsDisk_changeModule m _) fun _ => keepsDisk_wrapModule l m symbols key

end Loading

end PEInspect
