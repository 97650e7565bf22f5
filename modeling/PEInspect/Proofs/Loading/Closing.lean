import PEInspect.Proofs.Loading.Balance
import PEInspect.Proofs.Session.Closing

/-!
# Closing

Closing a file closes what it holds, each resource once, and touches nothing else
(`Closes.settles`). The trace shows the order: the metadata of a module are closed before its image,
and a map before its handle (`Closes.calls`). As loading a path leaves a file in balance, one
closing of the file settles everything that loading has opened (`loaded_once_closed`).
-/

namespace PEInspect

open PEInspect.Action

/-! ## Images -/

namespace Images

/-- The world in which a parsed image has been closed. -/
def closedImage (w : World) (i : Ref .image) (view : View) (handle : Option (Ref .handle)) : World :=
  { (w.called (.imageReleased i)).released view handle with
    images := w.images.change i fun x => { x with body := .parsed none view none } }

/-- Closing a parsed image lets go of its view and of its directories. -/
lemma runs_close {w : World} {i : Ref .image} {directories view handle}
    (body : (w.images.get i).body = .parsed directories view handle) :
    (close i).Runs w (.ok ()) (closedImage w i view handle) := by
  refine .bind (runs_image i w) ?_
  rw [body]
  exact .bind (runs_emit _ w) (.bind (runs_release view handle _) rfl)

/-- The calls that close an image, in their order: the image is let go, then the map in its view,
and then the handle below. -/
def closingCalls (i : Ref .image) (view : View) (handle : Option (Ref .handle)) : List Event :=
  .imageReleased i ::
    (match view with
      | .mapped map => [.mapClosed map]
      | .memory _ => []) ++
    match handle with
      | some h => [.handleClosed h]
      | none => []

/-- Closing an image makes these calls and no others. -/
lemma trace_closedImage (w : World) (i : Ref .image) (view : View) (handle : Option (Ref .handle)) :
    (closedImage w i view handle).trace = w.trace ++ closingCalls i view handle := by
  cases view <;> cases handle <;> simp [closedImage, closingCalls, World.releasing]

end Images

/-- Closing an image closes its handle once more, and no other. -/
lemma handle_closedImage (w : World) (i : Ref .image) (view : View) {handle : Option (Ref .handle)}
    (r : Ref .handle) :
    ((Images.closedImage w i view handle).handles.get r).closings =
      if handle = some r ∧ r.index < w.handles.cells.length
      then (w.handles.get r).closings + 1 else (w.handles.get r).closings := by
  cases handle with
  | none => rfl
  | some h =>
    have change : (Images.closedImage w i view (some h)).handles
        = w.handles.change h fun x => { x with closings := x.closings + 1 } := rfl
    rw [change, Arena.get_change]
    by_cases same : r = h
    · subst same
      simp only [true_and]
      split <;> rfl
    · have other : some h ≠ some r := fun e => same (Option.some.inj e).symm
      simp only [same, other, false_and, if_false]

/-- Closing an image closes its map once more, and no other. -/
lemma mapping_closedImage (w : World) (i : Ref .image) {view : View} (handle : Option (Ref .handle))
    (r : Ref .mapping) :
    ((Images.closedImage w i view handle).mappings.get r).closings =
      if view = .mapped r ∧ r.index < w.mappings.cells.length
      then (w.mappings.get r).closings + 1 else (w.mappings.get r).closings := by
  cases view with
  | memory content => rfl
  | mapped map =>
    have change : (Images.closedImage w i (.mapped map) handle).mappings
        = w.mappings.change map fun x => { x with closings := x.closings + 1 } := rfl
    rw [change, Arena.get_change]
    by_cases same : r = map
    · subst same
      simp only [true_and]
      split <;> rfl
    · have other : View.mapped map ≠ .mapped r := fun e => same (View.mapped.inj e).symm
      simp only [same, other, false_and, if_false]

section Image

variable {w : World} {i : Ref .image} {directories : Option DirectoryTable} {view : View}
  {handle : Option (Ref .handle)} (body : (w.images.get i).body = .parsed directories view handle)
include body

/-- Closing an image closes what it holds once more. -/
lemma closings_closedImage {first : World} {q : Resource} (holds : Holds w (.image i) q)
    (since : q.Since first w) :
    q.closings (Images.closedImage w i view handle) = q.closings w + 1 := by
  cases holds with
  | @handle _ h owns e =>
    cases owns
    have same : handle = some h := by
      rw [Image.handle?, body] at e
      exact e
    rw [Resource.closings, handle_closedImage, if_pos ⟨same, since.2⟩]
    rfl
  | @mapping _ map owns e =>
    cases owns
    have same : view = .mapped map := by
      rw [Images.map?, body] at e
      cases view with
      | memory => cases e
      | mapped map' =>
        cases e
        rfl
    rw [Resource.closings, mapping_closedImage, if_pos ⟨same, since.2⟩]
    rfl
  | metadata e => cases e

/-- Closing an image leaves everything else as it is. -/
lemma closings_closedImage_of_free {q : Resource} (free : ¬ Holds w (.image i) q) :
    q.closings (Images.closedImage w i view handle) = q.closings w := by
  cases q with
  | handle h =>
    have other : ¬ (handle = some h ∧ h.index < w.handles.cells.length) := by
      rintro ⟨same, -⟩
      refine free (.handle .image ?_)
      rw [Image.handle?, body]
      exact same
    rw [Resource.closings, handle_closedImage, if_neg other]
    rfl
  | mapping map =>
    have other : ¬ (view = .mapped map ∧ map.index < w.mappings.cells.length) := by
      rintro ⟨same, -⟩
      subst same
      refine free (.mapping .image ?_)
      rw [Images.map?, body]
    rw [Resource.closings, mapping_closedImage, if_neg other]
    rfl
  | metadata md => rfl

omit body in
/-- An image that has been closed is not open. -/
lemma not_isOpen_closedImage {first : World} (since : first.images.Since w.images i) :
    ¬ ((Images.closedImage w i view handle).images.get i).IsOpen := by
  have change : (Images.closedImage w i view handle).images
      = w.images.change i fun x => { x with body := .parsed none view none } := rfl
  rw [change, Arena.get_change, if_pos ⟨rfl, since.2⟩]
  intro ⟨_, _, _, e⟩
  cases e

end Image

/-! ## Files -/

/-- The world in which the metadata of a module have been closed, and the image not yet. -/
def withoutMetadata (w : World) (m : Ref .module) (md : Ref .metadata) (lookup : TypeLookup) :
    World :=
  (w.closedMetadata md).changedModule m fun x => { x with body := .parsed md lookup.drop }

/-- The worlds in which closing a file ends: nothing has changed, or an image is closed, of a module
from the world in which its metadata have been closed. -/
inductive Closes (f : Ref .file) (w : World) : World → Prop where
  | nothing :
    (w.files.get f).backing = .unrecognized →
    Closes f w w
  | image {i text v} :
    (w.files.get f).backing = .image i →
    (Images.close i).Runs (w.noted text) (.ok ()) v →
    Closes f w v
  | module {m md lookup i text v} :
    (w.files.get f).backing = .module m →
    (w.modules.get m).body = .parsed md lookup →
    (w.modules.get m).image = some i →
    (Images.close i).Runs (withoutMetadata (w.noted text) m md lookup) (.ok ()) v →
    Closes f w v

/-- The calls that close what a file stands on, in their order: the metadata of a module are closed
before its image. -/
inductive ClosingCalls (w : World) : Backing → List Event → Prop where
  | nothing : ClosingCalls w .unrecognized []
  | image {i directories view handle} :
    (w.images.get i).body = .parsed directories view handle →
    ClosingCalls w (.image i) (Images.closingCalls i view handle)
  | module {m md lookup i directories view handle} :
    (w.modules.get m).body = .parsed md lookup →
    (w.modules.get m).image = some i →
    (w.images.get i).body = .parsed directories view handle →
    ClosingCalls w (.module m)
      (.metadataClosed md (w.metadata.get md).announced :: Images.closingCalls i view handle)

/-- Closing a module closes its metadata and then its image. -/
lemma runs_closeModule {w v : World} {m : Ref .module} {md lookup i}
    (body : (w.modules.get m).body = .parsed md lookup) (image : (w.modules.get m).image = some i)
    (run : (Images.close i).Runs (withoutMetadata w m md lookup) (.ok ()) v) :
    (Modules.close m).Runs w (.ok ()) v := by
  refine .bind (runs_managedModule m w) ?_
  rw [body, image]
  exact .bind (Modules.runs_closeMetadata md w) (.bind (runs_changeModule _ _ _) run)

/-- Closing a file over an image runs. -/
lemma exists_closes_image {w : World} {f : Ref .file} {i : Ref .image}
    (backing : (w.files.get f).backing = .image i) (isOpen : (w.images.get i).IsOpen) :
    ∃ v, (Files.close f).Runs w (.ok ()) v ∧ Closes f w v := by
  obtain ⟨directories, view, handle, body⟩ := isOpen
  have run := Images.runs_close (w := w.noted ("Closing image " ++ (w.files.get f).path)) body
  refine ⟨_, .bind (runs_file f w) ?_, .image backing run⟩
  rw [backing]
  exact .bind (runs_debug _ w) run

/-- Closing a file over a module with an image and metadata runs. -/
lemma exists_closes_module {w : World} {f : Ref .file} {m : Ref .module} {i md}
    (backing : (w.files.get f).backing = .module m)
    (custody : (w.modules.get m).custody = (some i, some md)) (isOpen : (w.images.get i).IsOpen) :
    ∃ v, (Files.close f).Runs w (.ok ()) v ∧ Closes f w v := by
  obtain ⟨directories, view, handle, parsed⟩ := isOpen
  have image : (w.modules.get m).image = some i := congrArg Prod.fst custody
  have stands : (w.modules.get m).body.metadata? = some md := congrArg Prod.snd custody
  cases body : (w.modules.get m).body with
  | scripted script =>
    rw [body] at stands
    cases stands
  | parsed md' lookup =>
    rw [body] at stands
    cases stands
    have run := Images.runs_close (w := withoutMetadata (w.noted ("Closing module " ++
      if (w.files.get f).path.isEmpty then (w.files.get f).shortName else (w.files.get f).path))
        m md lookup) parsed
    refine ⟨_, .bind (runs_file f w) ?_, .module backing body image run⟩
    rw [backing]
    exact .bind (runs_debug _ w) (runs_closeModule body image run)

/-- Closing has closed what a backing holds once more, and its image, and has left every other
resource as it was. -/
structure Settles (b : Backing) (w v : World) : Prop where
  held : ∀ q, Holds w b q → q.closings v = q.closings w + 1
  free : ∀ q, ¬ Holds w b q → q.closings v = q.closings w
  image : ∀ i, Owns w b i → ¬ (v.images.get i).IsOpen

/-- Closing an image after a notice settles what the image holds. -/
lemma settles_image {first w v : World} {i : Ref .image} {text : String}
    (run : (Images.close i).Runs (w.noted text) (.ok ()) v)
    (made : ∀ q, Holds w (.image i) q → q.Since first w)
    (image : first.images.Since w.images i) (isOpen : (w.images.get i).IsOpen) :
    Settles (.image i) w v := by
  obtain ⟨directories, view, handle, parsed⟩ := isOpen
  obtain ⟨_, rfl⟩ := run.unique (Images.runs_close (w := w.noted text) parsed)
  have holds {q} : Holds (w.noted text) (.image i) q ↔ Holds w (.image i) q :=
    holds_iff (w := w) (v := w.noted text) (fun _ _ => rfl) (fun _ _ => rfl)
  have same (q : Resource) : q.closings (w.noted text) = q.closings w := by
    cases q <;> rfl
  constructor
  · intro q held
    have since : q.Since first (w.noted text) := by
      have since := made q held
      cases q <;> exact since
    rw [closings_closedImage (w := w.noted text) parsed (holds.mpr held) since, same]
  · intro q free
    have free' : ¬ Holds (w.noted text) (.image i) q := fun held => free (holds.mp held)
    rw [closings_closedImage_of_free (w := w.noted text) parsed free', same]
  · intro j owns
    cases owns
    exact not_isOpen_closedImage (w := w.noted text) image

/-- Metadata are closed once more, and no others. -/
lemma metadata_withoutMetadata (w : World) (m : Ref .module) (md : Ref .metadata)
    (lookup : TypeLookup) (r : Ref .metadata) :
    ((withoutMetadata w m md lookup).metadata.get r).closings =
      if r = md ∧ md.index < w.metadata.cells.length
      then (w.metadata.get r).closings + 1 else (w.metadata.get r).closings := by
  have change : (withoutMetadata w m md lookup).metadata
      = w.metadata.change md fun o => { o with closings := o.closings + 1 } := rfl
  rw [change, Arena.get_change]
  split
  · rename_i here
    rw [here.1]
  · rfl

/-- Closing the metadata of a module and then its image settles what the module holds. -/
lemma settles_module {first w v : World} {m : Ref .module} {md lookup} {i : Ref .image}
    {text : String} (body : (w.modules.get m).body = .parsed md lookup)
    (owned : (w.modules.get m).image = some i)
    (run : (Images.close i).Runs (withoutMetadata (w.noted text) m md lookup) (.ok ()) v)
    (made : ∀ q, Holds w (.module m) q → q.Since first w)
    (image : first.images.Since w.images i) (isOpen : (w.images.get i).IsOpen) :
    Settles (.module m) w v := by
  obtain ⟨directories, view, handle, parsed⟩ := isOpen
  obtain ⟨_, rfl⟩ := run.unique
    (Images.runs_close (w := withoutMetadata (w.noted text) m md lookup) parsed)
  have stands : (w.modules.get m).body.metadata? = some md := by
    rw [body]
    rfl
  -- Closing the metadata leaves the image as it stands, with all that the module holds besides.
  have holds {q} (other : ∀ r, q ≠ .metadata r) :
      Holds (withoutMetadata (w.noted text) m md lookup) (.image i) q ↔ Holds w (.module m) q :=
    (holds_iff (w := w) (v := withoutMetadata (w.noted text) m md lookup) (fun _ e => by cases e)
      (fun _ _ => rfl)).trans (holds_module owned other).symm
  constructor
  · intro q held
    have since := made q held
    cases q with
    | handle h =>
      exact closings_closedImage (w := withoutMetadata (w.noted text) m md lookup) parsed
        ((holds fun _ e => by cases e).mpr held) since
    | mapping map =>
      exact closings_closedImage (w := withoutMetadata (w.noted text) m md lookup) parsed
        ((holds fun _ e => by cases e).mpr held) since
    | metadata r =>
      cases held with
      | metadata e stands' =>
        cases e
        rw [stands] at stands'
        cases stands'
        have closed := metadata_withoutMetadata (w.noted text) m md lookup md
        rw [if_pos ⟨rfl, since.2⟩] at closed
        exact closed
  · intro q free
    cases q with
    | handle h =>
      exact closings_closedImage_of_free (w := withoutMetadata (w.noted text) m md lookup) parsed
        (fun held => free ((holds fun _ e => by cases e).mp held))
    | mapping map =>
      exact closings_closedImage_of_free (w := withoutMetadata (w.noted text) m md lookup) parsed
        (fun held => free ((holds fun _ e => by cases e).mp held))
    | metadata r =>
      have other : ¬ (r = md ∧ md.index < (w.noted text).metadata.cells.length) := by
        rintro ⟨rfl, _⟩
        exact free (.metadata rfl stands)
      have kept := metadata_withoutMetadata (w.noted text) m md lookup r
      rw [if_neg other] at kept
      exact kept
  · intro j owns
    cases owns with
    | module e =>
      rw [owned] at e
      cases e
      exact not_isOpen_closedImage (w := withoutMetadata (w.noted text) m md lookup) image

/-- Closing a file settles what the file holds. -/
lemma Closes.settles {first w v : World} {f : Ref .file} {b : Backing} (closes : Closes f w v)
    (backing : (w.files.get f).backing = b) (made : ∀ q, Holds w b q → q.Since first w)
    (image : ∀ i, Owns w b i → first.images.Since w.images i ∧ (w.images.get i).IsOpen) :
    Settles b w v := by
  subst backing
  cases closes with
  | nothing e =>
    rw [e]
    refine ⟨?_, fun _ _ => rfl, fun _ => nofun⟩
    intro q holds
    cases holds with
    | handle owns => cases owns
    | mapping owns => cases owns
    | metadata e => cases e
  | image e run =>
    rw [e] at made image ⊢
    obtain ⟨since, isOpen⟩ := image _ .image
    exact settles_image run made since isOpen
  | module e body owned run =>
    rw [e] at made image ⊢
    obtain ⟨since, isOpen⟩ := image _ (.module owned)
    exact settles_module body owned run made since isOpen

/-- Closing a file makes the calls that close what it stands on, in their order, and no others. -/
lemma Closes.calls {w v : World} {f : Ref .file} (closes : Closes f w v)
    (isOpen : ∀ i, Owns w (w.files.get f).backing i → (w.images.get i).IsOpen) :
    ∃ calls, ClosingCalls w (w.files.get f).backing calls ∧ v.trace = w.trace ++ calls := by
  cases closes with
  | nothing e =>
    rw [e]
    exact ⟨[], .nothing, (List.append_nil _).symm⟩
  | @image i text _ e run =>
    rw [e] at isOpen ⊢
    obtain ⟨directories, view, handle, parsed⟩ := isOpen i .image
    obtain ⟨-, rfl⟩ := run.unique (Images.runs_close (w := w.noted text) parsed)
    exact ⟨_, .image parsed, Images.trace_closedImage _ i view handle⟩
  | @module m md lookup i text _ e body owned run =>
    rw [e] at isOpen ⊢
    obtain ⟨directories, view, handle, parsed⟩ := isOpen i (.module owned)
    obtain ⟨-, rfl⟩ := run.unique
      (Images.runs_close (w := withoutMetadata (w.noted text) m md lookup) parsed)
    refine ⟨_, .module body owned parsed, ?_⟩
    rw [Images.trace_closedImage]
    exact List.append_assoc w.trace _ _

/-! ## Loaded files -/

/-- A file that loading has made between two worlds is closed from a third world to a fourth one.
The calls of the closing stand behind those before it, the metadata of a module before its image.
Then everything that loading has opened is closed once, its images are closed, and every other
resource is as it was. -/
structure ClosedOnce (w v : World) (f : Ref .file) (x u : World) : Prop where
  order : ∃ calls, ClosingCalls x (x.files.get f).backing calls ∧ u.trace = x.trace ++ calls
  resources : ∀ q : Resource, q.Since w v → q.closings u = 1
  images : ∀ i, w.images.Since v.images i → ¬ (u.images.get i).IsOpen
  others : ∀ q : Resource, ¬ q.Since w v → q.closings u = q.closings x

section Loaded

variable {w v x : World} {f : Ref .file} (balanced : Loading.Balanced w v f) (kept : Kept w v x)
include balanced kept

/-- The file stands on what it stood on. -/
lemma kept_backing : (x.files.get f).backing = (v.files.get f).backing :=
  (kept.files f balanced.file).2

/-- The file owns the image that it owned. -/
lemma kept_owns {i : Ref .image} :
    Owns x (v.files.get f).backing i ↔ Owns v (v.files.get f).backing i :=
  owns_iff fun m e => (kept.modules m (balanced.module m e).1).2

/-- The file holds what it held. -/
lemma kept_holds {q : Resource} :
    Holds x (v.files.get f).backing q ↔ Holds v (v.files.get f).backing q :=
  holds_iff (fun m e => (kept.modules m (balanced.module m e).1).2)
    (fun i owns => (kept.images i ((balanced.image i).mp owns)).2)

/-- The image of the file is still there and open. -/
lemma kept_image {i : Ref .image} (owns : Owns x (v.files.get f).backing i) :
    w.images.Since x.images i ∧ (x.images.get i).IsOpen := by
  have owns' := (kept_owns balanced kept).mp owns
  obtain ⟨since, body⟩ := kept.images i ((balanced.image i).mp owns')
  refine ⟨since, ?_⟩
  rw [Image.IsOpen, body]
  exact balanced.isOpen i owns'

/-- What the file holds is still there. -/
lemma kept_made {q : Resource} (holds : Holds x (v.files.get f).backing q) : q.Since w x :=
  kept.since (balanced.held q ((kept_holds balanced kept).mp holds)).1

/-- Closing the file runs. -/
lemma exists_closes : ∃ u, (Files.close f).Runs x (.ok ()) u ∧ Closes f x u := by
  have backing := kept_backing balanced kept
  cases b : (v.files.get f).backing with
  | unrecognized =>
    rw [b] at backing
    refine ⟨x, .bind (runs_file f x) ?_, .nothing backing⟩
    rw [backing]
    exact runs_pure () x
  | image i =>
    have owns : Owns x (v.files.get f).backing i := b ▸ .image
    rw [b] at backing
    exact exists_closes_image backing (kept_image balanced kept owns).2
  | module m =>
    obtain ⟨new, i, md, custody⟩ := balanced.module m b
    have custody' := (kept.modules m new).2.trans custody
    have owns : Owns x (v.files.get f).backing i := b ▸ .module (congrArg Prod.fst custody')
    rw [b] at backing
    exact exists_closes_module backing custody' (kept_image balanced kept owns).2

/-- Closing the file once settles everything that has been opened with it. -/
lemma exists_closedOnce :
    ∃ u, (Files.close f).Runs x (.ok ()) u ∧ ClosedOnce w v f x u := by
  obtain ⟨u, run, closes⟩ := exists_closes balanced kept
  have backing := kept_backing balanced kept
  have settles := closes.settles backing
    (fun q => kept_made balanced kept) (fun i => kept_image balanced kept)
  have order := closes.calls fun i owns => (kept_image balanced kept (backing ▸ owns)).2
  refine ⟨u, run, order, ?_, ?_, ?_⟩
  · intro q since
    have same := kept.closings since
    -- What the file holds is closed now, and the rest has been closed while loading.
    by_cases holds : Holds v (v.files.get f).backing q
    · rw [settles.held q ((kept_holds balanced kept).mpr holds), same, (balanced.held q holds).2]
    · rw [settles.free q (fun held => holds ((kept_holds balanced kept).mp held)), same,
        balanced.released q since holds]
  · intro i since
    exact settles.image i ((kept_owns balanced kept).mpr ((balanced.image i).mpr since))
  · intro q since
    have free : ¬ Holds v (v.files.get f).backing q := fun held => since (balanced.held q held).1
    exact settles.free q fun held => free ((kept_holds balanced kept).mp held)

end Loaded

/-- Loading a path is in balance: what the file holds is open, everything else that has been opened
on the way has been closed once, and nothing else has been touched. As long as that is kept, one
closing of the file leaves everything that has been opened on the way closed once, be it called,
asked for by a command under either name, or due at the end of the steps inside the file, whatever
they are and whether or not they raise. The steps inside a file leave their trace apart, so that the
calls of its closing are those in the answer. -/
theorem loaded_once_closed {l : Loader} {w v : World} {text : String} {mapped : Document.Value}
    {symbols : Bool} {resolver : Option (Ref .resolver)} {key : Option FileKey} {f : Ref .file}
    (images : l.images = .standard) (modules : l.modules = .standard)
    (run : (Loading.fromTarget l (.path text) mapped symbols resolver key).Runs w (.ok f) v) :
    Loading.Balanced w v f ∧
    (∀ x, Kept w v x → ∃ u, (Files.close f).Runs x (.ok ()) u ∧ ClosedOnce w v f x u) ∧
    (∀ (s : Session) (name : String), s.names.objects.lookup name = some (.file f) →
      (∀ disposing, Kept w v s.world →
        ClosedOnce w v f s.world ((Turn.close name disposing).outcome s).2.world) ∧
      (∀ body raised,
        let before := (Session.runSteps s body).2.world
        Kept w v before → ∃ u, ClosedOnce w v f (Session.apart before) u ∧
          (∃ label inner failure, (Session.runStep s (.within name body raised)).1
            = .within label inner failure ⟨u.trace, u.log⟩) ∧
          (Session.runStep s (.within name body raised)).2.world
            = { u with trace := before.trace, log := before.log })) := by
  have balanced := (Loading.fromTarget_loads images modules run).balanced
  refine ⟨balanced, fun x kept => exists_closedOnce balanced kept, fun s name named => ⟨?_, ?_⟩⟩
  · intro disposing kept
    obtain ⟨u, closed, once⟩ := exists_closedOnce balanced kept
    rw [Turn.close_world disposing named, closed]
    exact once
  · intro body raised before kept
    have kept' : Kept w v (Session.apart before) :=
      ⟨kept.handles, kept.mappings, kept.metadata, kept.images, kept.modules, kept.files⟩
    obtain ⟨u, closed, once⟩ := exists_closedOnce balanced kept'
    obtain ⟨answer, last⟩ := Session.runStep_within body raised named
    rw [closed] at answer last
    exact ⟨u, once, answer, last⟩

/-- A handle, a map and metadata that have been opened for a module are closed with it: the
metadata, then the image with its map, and the handle at last. -/
theorem small_module_closed_once : ∃ v u,
    (Loading.fromTarget {} (.path "/srv/Lib.dll") (.bool true) false none none).Runs
      (Loading.moduleWorld "Lib.dll".toList) (.ok ⟨0⟩) v ∧
    (Files.close ⟨0⟩).Runs v (.ok ()) u ∧
    u.trace = v.trace ++
      [.metadataClosed ⟨0⟩ false, .imageReleased ⟨0⟩, .mapClosed ⟨0⟩, .handleClosed ⟨0⟩] ∧
    Resource.closings u (.handle ⟨0⟩) = 1 ∧ Resource.closings u (.mapping ⟨0⟩) = 1 ∧
    Resource.closings u (.metadata ⟨0⟩) = 1 := by
  -- Which objects come out is found by running the loader.
  let loaded := (Loading.fromTarget {} (.path "/srv/Lib.dll") (.bool true) false none none).outcome
    (Loading.moduleWorld "Lib.dll".toList)
  have result : loaded.1.toOption = some ⟨0⟩ := by decide +kernel
  have handles : 0 < loaded.2.handles.cells.length := by decide +kernel
  have mappings : 0 < loaded.2.mappings.cells.length := by decide +kernel
  have metadata : 0 < loaded.2.metadata.cells.length := by decide +kernel
  have announced : (loaded.2.metadata.get ⟨0⟩).announced = false := by decide +kernel
  have backing : (loaded.2.files.get ⟨0⟩).backing = .module ⟨0⟩ := by decide +kernel
  have stands : (loaded.2.modules.get ⟨0⟩).body.metadata? = some ⟨0⟩ := by decide +kernel
  have owned : (loaded.2.modules.get ⟨0⟩).image = some ⟨0⟩ := by decide +kernel
  have image : (loaded.2.images.get ⟨0⟩).body
      = .parsed (some Loading.smallTable) (.mapped ⟨0⟩) (some ⟨0⟩) := by decide +kernel
  obtain ⟨f, v, run⟩ := Loading.exists_file (l := {}) rfl rfl
    (Loading.moduleWorld "Lib.dll".toList) "/srv/Lib.dll" (.bool true) none none
  have same : loaded = (.ok f, v) := run
  rw [same] at result handles mappings metadata announced backing stands owned image
  obtain rfl : f = ⟨0⟩ := Option.some.inj result
  obtain ⟨u, closed, once⟩ := (loaded_once_closed rfl rfl run).2.1 v ((Grown.refl v).kept _)
  refine ⟨v, u, run, closed, ?_, once.resources _ ⟨Nat.le_refl 0, handles⟩,
    once.resources _ ⟨Nat.le_refl 0, mappings⟩, once.resources _ ⟨Nat.le_refl 0, metadata⟩⟩
  obtain ⟨calls, closing, trace⟩ := once.order
  rw [backing] at closing
  cases closing with
  | module body owned' parsed =>
    rw [body] at stands
    cases stands
    cases owned.symm.trans owned'
    cases image.symm.trans parsed
    rw [announced] at trace
    exact trace

end PEInspect
