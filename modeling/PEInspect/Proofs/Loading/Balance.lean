import PEInspect.Proofs.Loading.Classification
import PEInspect.Proofs.World.Resources

/-!
# Balance

What loading a path opens, it closes again or leaves with the file that comes out of it. A path that
is not recognized leaves nothing open (`refused_of_opens`). The handle and the map of a recognized one
stay with its image (`Shows.held`, `Shows.covers`), and metadata stay with a module or are closed
(`refused_of_parses`, `made_of_parses`). Put together, whatever file comes out is in balance
(`Loads.balanced`): what it holds is open, and everything else that has been opened on the way has
been closed once.
-/

namespace PEInspect.Loading

open PEInspect.Action Opening Parsing

/-! ## Opening -/

/-- No more than a handle and a map have been opened, each of them has been closed once, and nothing
else but files has been made. -/
structure Refused (w v : World) : Prop where
  handles : w.handles.Adds (·.closings = 1) v.handles
  mappings : w.mappings.Adds (·.closings = 1) v.mappings
  metadata : v.metadata = w.metadata
  images : v.images = w.images
  modules : v.modules = w.modules
  files : w.files.cells <+: v.files.cells

section Dropped

variable {w v : World} {path : Path} {mapped : Bool} {content : Bytes}

/-- Letting go of a view closes its handle. -/
lemma dropped_handles (same : v.handles = (viewed w path mapped content).handles) :
    w.handles.Adds (·.closings = 1) (dropped w v mapped content).handles := by
  cases mapped with
  | false => exact .inl same
  | true =>
    refine .inr ⟨⟨path.toString, 1⟩, rfl, ?_⟩
    have change : (dropped w v true content).handles
        = v.handles.change w.handles.next fun h => { h with closings := h.closings + 1 } := rfl
    rw [change, same]
    exact Arena.change_add_next _ _ _

/-- Letting go of a view closes its map. -/
lemma dropped_mappings (same : v.mappings = (viewed w path mapped content).mappings) :
    w.mappings.Adds (·.closings = 1) (dropped w v mapped content).mappings := by
  cases mapped with
  | false => exact .inl same
  | true =>
    refine .inr ⟨{ content := content, file := w.disk.placeOf? path, closings := 1 }, rfl, ?_⟩
    have change : (dropped w v true content).mappings
        = v.mappings.change w.mappings.next fun m => { m with closings := m.closings + 1 } := rfl
    rw [change, same]
    exact Arena.change_add_next _ _ _

/-- Viewing a file makes nothing but a handle and a map. -/
lemma viewed_others (w : World) (path : Path) (mapped : Bool) (content : Bytes) :
    (viewed w path mapped content).metadata = w.metadata ∧
    (viewed w path mapped content).images = w.images ∧
    (viewed w path mapped content).modules = w.modules ∧
    (viewed w path mapped content).files = w.files := by
  cases mapped <;> exact ⟨rfl, rfl, rfl, rfl⟩

/-- Letting go of a view touches nothing but its handle and its map. -/
lemma dropped_others (w v : World) (mapped : Bool) (content : Bytes) :
    (dropped w v mapped content).metadata = v.metadata ∧
    (dropped w v mapped content).images = v.images ∧
    (dropped w v mapped content).modules = v.modules ∧
    (dropped w v mapped content).files = v.files := by
  cases mapped <;> exact ⟨rfl, rfl, rfl, rfl⟩

/-- A view that has been let go leaves nothing open. -/
lemma refused_dropped (handles : v.handles = (viewed w path mapped content).handles)
    (mappings : v.mappings = (viewed w path mapped content).mappings)
    (others : v.metadata = w.metadata ∧ v.images = w.images ∧ v.modules = w.modules ∧
      v.files = w.files) : Refused w (dropped w v mapped content) := by
  obtain ⟨metadata, images, modules, files⟩ := dropped_others w v mapped content
  obtain ⟨metadata', images', modules', files'⟩ := others
  exact ⟨dropped_handles handles, dropped_mappings mappings, metadata.trans metadata',
    images.trans images', modules.trans modules', (files.trans files').symm ▸ List.prefix_rfl⟩

end Dropped

/-- A path that is not opened leaves nothing open. -/
lemma refused_of_opens {path mapped w refusal v}
    (ops : Opens path mapped w (.error refusal) v) : Refused w v := by
  cases ops with
  | unreadable => exact ⟨.inl rfl, .inl rfl, rfl, rfl, rfl, List.prefix_rfl⟩
  | empty =>
    -- An empty file cannot be mapped, so its handle is closed at once.
    refine ⟨.inr ⟨⟨path.toString, 1⟩, rfl, ?_⟩, .inl rfl, rfl, rfl, rfl, List.prefix_rfl⟩
    exact Arena.change_add_next w.handles ⟨path.toString, 0⟩
      fun h => { h with closings := h.closings + 1 }
  | unsigned =>
    exact refused_dropped rfl rfl (viewed_others w path mapped _)
  | raised =>
    exact refused_dropped rfl rfl (viewed_others w path mapped _)
  | rejected =>
    exact refused_dropped rfl rfl (viewed_others w path mapped _)

/-! ## Opened images -/

section Opened

variable {w : World} {path : Path} {mapped : Bool} {content : Bytes} {directories : DirectoryTable}

/-- Opening a path leaves the new handle open. -/
lemma opened_handles :
    w.handles.Adds (·.closings = 0) (opened w path mapped content directories).handles := by
  cases mapped with
  | false => exact .inl rfl
  | true => exact .inr ⟨⟨path.toString, 0⟩, rfl, rfl⟩

/-- Opening a path leaves the new map open. -/
lemma opened_mappings :
    w.mappings.Adds (·.closings = 0) (opened w path mapped content directories).mappings := by
  cases mapped with
  | false => exact .inl rfl
  | true => exact .inr ⟨{ content := content, file := w.disk.placeOf? path }, rfl, rfl⟩

/-- Opening a path adds its image. -/
lemma opened_images : (opened w path mapped content directories).images
    = w.images.add (imageIn w path mapped content directories) := by
  cases mapped <;> rfl

/-- Opening a path makes nothing but handles, maps and images. -/
lemma opened_others (w : World) (path : Path) (mapped : Bool) (content : Bytes)
    (directories : DirectoryTable) :
    (opened w path mapped content directories).metadata = w.metadata ∧
    (opened w path mapped content directories).modules = w.modules ∧
    (opened w path mapped content directories).files = w.files := by
  cases mapped <;> exact ⟨rfl, rfl, rfl⟩

/-- The handle that opening a path makes is that of its image. -/
lemma opened_since_handle {r : Ref .handle} :
    w.handles.Since (opened w path mapped content directories).handles r ↔
      (imageIn w path mapped content directories).handle? = some r := by
  cases mapped with
  | false => exact ⟨fun since => absurd since (Arena.not_since_self _ r), nofun⟩
  | true =>
    refine Iff.trans Arena.since_add ⟨?_, ?_⟩
    · rintro rfl
      rfl
    · intro e
      cases e
      rfl

/-- The map that opening a path makes is that of its image. -/
lemma opened_since_mapping {r : Ref .mapping} :
    w.mappings.Since (opened w path mapped content directories).mappings r ↔
      Images.map? (imageIn w path mapped content directories) = some r := by
  cases mapped with
  | false => exact ⟨fun since => absurd since (Arena.not_since_self _ r), nofun⟩
  | true =>
    refine Iff.trans Arena.since_add ⟨?_, ?_⟩
    · rintro rfl
      rfl
    · intro e
      cases e
      rfl

end Opened

/-- The handles, maps and images of a world are those that opening a path has left. -/
structure Shows (w v : World) (path : Path) (mapped : Bool) (content : Bytes)
    (directories : DirectoryTable) : Prop where
  handles : v.handles = (opened w path mapped content directories).handles
  mappings : v.mappings = (opened w path mapped content directories).mappings
  images : v.images = (opened w path mapped content directories).images

section Shows

variable {w v : World} {path : Path} {mapped : Bool} {content : Bytes} {directories : DirectoryTable}
  (shows_ : Shows w v path mapped content directories)
include shows_

/-- The image that has been opened. -/
lemma Shows.image :
    v.images.get w.images.next = imageIn w path mapped content directories := by
  rw [shows_.images]
  exact opened_get_image

/-- The image is all that has been made of images. -/
lemma Shows.since_image {i : Ref .image} : w.images.Since v.images i ↔ i = w.images.next := by
  rw [shows_.images, opened_images]
  exact Arena.since_add

/-- The image that has been opened is open. -/
lemma Shows.isOpen : (v.images.get w.images.next).IsOpen := by
  rw [shows_.image]
  exact ⟨_, _, _, rfl⟩

/-- Whatever holds the image holds what has been opened for it, and that is open. -/
lemma Shows.held {b : Backing} {q : Resource} (own : ∀ i, Owns v b i → i = w.images.next)
    (holds : Holds v b q) : (q.Since w v ∧ q.closings v = 0) ∨
      ∃ m md, b = .module m ∧ (v.modules.get m).body.metadata? = some md ∧ q = .metadata md := by
  cases holds with
  | handle owns e =>
    rw [own _ owns, shows_.image] at e
    have since := opened_since_handle.mpr e
    refine .inl ⟨?_, ?_⟩
    · rw [Resource.Since, shows_.handles]
      exact since
    · rw [Resource.closings, shows_.handles]
      exact opened_handles.get since
  | mapping owns e =>
    rw [own _ owns, shows_.image] at e
    have since := opened_since_mapping.mpr e
    refine .inl ⟨?_, ?_⟩
    · rw [Resource.Since, shows_.mappings]
      exact since
    · rw [Resource.closings, shows_.mappings]
      exact opened_mappings.get since
  | metadata e stands => exact .inr ⟨_, _, e, stands, rfl⟩

/-- Whatever has been opened is held with the image, metadata apart. -/
lemma Shows.covers {b : Backing} {q : Resource} (own : Owns v b w.images.next)
    (since : q.Since w v) :
    Holds v b q ∨ ∃ md, q = .metadata md ∧ w.metadata.Since v.metadata md := by
  cases q with
  | handle h =>
    rw [Resource.Since, shows_.handles] at since
    refine .inl (.handle own ?_)
    rw [shows_.image]
    exact opened_since_handle.mp since
  | mapping map =>
    rw [Resource.Since, shows_.mappings] at since
    refine .inl (.mapping own ?_)
    rw [shows_.image]
    exact opened_since_mapping.mp since
  | metadata md => exact .inr ⟨md, rfl, since⟩

end Shows

/-! ## Loaded files -/

/-- What loading a path has come to, as far as resources go. -/
structure Balanced (w v : World) (f : Ref .file) : Prop where
  /-- Nothing that was there before has been touched. -/
  grown : Grown w v
  /-- The file has been made on the way. -/
  file : w.files.Since v.files f
  /-- What the file holds has been opened on the way, and is open. -/
  held : ∀ q, Holds v (v.files.get f).backing q → q.Since w v ∧ q.closings v = 0
  /-- Whatever else has been opened on the way has been closed once. -/
  released : ∀ q, q.Since w v → ¬ Holds v (v.files.get f).backing q → q.closings v = 1
  /-- The image of the file is what has been made on the way of images. -/
  image : ∀ i, Owns v (v.files.get f).backing i ↔ w.images.Since v.images i
  /-- It has not been closed. -/
  isOpen : ∀ i, Owns v (v.files.get f).backing i → (v.images.get i).IsOpen
  /-- A module has been made on the way, and has an image and metadata. -/
  module : ∀ m, (v.files.get f).backing = .module m → w.modules.Since v.modules m ∧
    ∃ i md, (v.modules.get m).custody = (some i, some md)

/-- A refused path is loaded in balance. -/
lemma balanced_unrecognized {w v : World} {f : Ref .file} (refused : Refused w v)
    (new : w.files.Since v.files f) (backing : (v.files.get f).backing = .unrecognized) :
    Balanced w v f where
  grown :=
    { handles := refused.handles.grown
      mappings := refused.mappings.grown
      metadata := refused.metadata ▸ List.prefix_rfl
      images := refused.images ▸ List.prefix_rfl
      modules := refused.modules ▸ List.prefix_rfl
      files := refused.files }
  file := new
  held q holds := by
    rw [backing] at holds
    cases holds with
    | handle owns => cases owns
    | mapping owns => cases owns
    | metadata e => cases e
  released q since _ := by
    cases q with
    | handle h => exact refused.handles.get since
    | mapping map => exact refused.mappings.get since
    | metadata md =>
      rw [Resource.Since, refused.metadata] at since
      exact absurd since (Arena.not_since_self _ md)
  image i := by
    rw [backing, refused.images]
    exact ⟨nofun, fun since => absurd since (Arena.not_since_self _ i)⟩
  isOpen i owns := by
    rw [backing] at owns
    cases owns
  module m e := by
    rw [backing] at e
    cases e

section Loaded

variable {w v : World} {path : Path} {mapped : Bool} {content : Bytes} {directories : DirectoryTable}
  {f : Ref .file} (shows_ : Shows w v path mapped content directories)
  (files : w.files.cells <+: v.files.cells)
include shows_ files

/-- A world that shows an opened path has grown, if its metadata and its modules have. -/
lemma Shows.grown (metadata : w.metadata.cells <+: v.metadata.cells)
    (modules : w.modules.cells <+: v.modules.cells) : Grown w v where
  handles := shows_.handles ▸ opened_handles.grown
  mappings := shows_.mappings ▸ opened_mappings.grown
  metadata := metadata
  images := shows_.images ▸ opened_images ▸ Arena.prefix_add List.prefix_rfl
  modules := modules
  files := files

variable (new : w.files.Since v.files f)
include new

/-- A file over the image is in balance, if the metadata that have been opened have been closed. -/
lemma balanced_image (backing : (v.files.get f).backing = .image w.images.next)
    (metadata : w.metadata.Adds (·.closings = 1) v.metadata) (modules : v.modules = w.modules) :
    Balanced w v f := by
  have own : ∀ i, Owns v (.image w.images.next) i ↔ i = w.images.next := by
    intro i
    constructor
    · intro owns
      cases owns
      rfl
    · rintro rfl
      exact .image
  refine ⟨shows_.grown files metadata.grown (modules ▸ List.prefix_rfl), new, ?_, ?_, ?_, ?_, ?_⟩
  · intro q holds
    rw [backing] at holds
    obtain held | ⟨m, md, e, _, _⟩ := shows_.held (fun i => (own i).mp) holds
    · exact held
    · cases e
  · intro q since free
    rw [backing] at free
    obtain holds | ⟨md, rfl, made⟩ := shows_.covers .image since
    · exact absurd holds free
    · exact metadata.get made
  · intro i
    rw [backing, shows_.since_image]
    exact own i
  · intro i owns
    rw [backing] at owns
    rw [(own i).mp owns]
    exact shows_.isOpen
  · intro m e
    rw [backing] at e
    cases e

/-- A file over a new module that owns the image is in balance, if the metadata that have been opened
are those of the module and are open. -/
lemma balanced_module {m : Ref .module} {md : OpenMetadata}
    (backing : (v.files.get f).backing = .module m) (made : w.modules.Since v.modules m)
    (custody : (v.modules.get m).custody = (some w.images.next, some w.metadata.next))
    (metadata : v.metadata = w.metadata.add md) (fresh : md.closings = 0)
    (modules : w.modules.cells <+: v.modules.cells) : Balanced w v f := by
  have image : (v.modules.get m).image = some w.images.next := congrArg Prod.fst custody
  have stands : (v.modules.get m).body.metadata? = some w.metadata.next := congrArg Prod.snd custody
  have own : ∀ i, Owns v (.module m) i ↔ i = w.images.next := by
    intro i
    constructor
    · intro owns
      cases owns with
      | module e =>
        rw [image] at e
        cases e
        rfl
    · rintro rfl
      exact .module image
  have grown := shows_.grown files (metadata ▸ Arena.prefix_add List.prefix_rfl) modules
  refine ⟨grown, new, ?_, ?_, ?_, ?_, ?_⟩
  · intro q holds
    rw [backing] at holds
    -- The handle and the map come with the image; the metadata are the module's own.
    obtain held | ⟨_, md', e, stands', rfl⟩ := shows_.held (fun i => (own i).mp) holds
    · exact held
    · cases e
      rw [stands] at stands'
      cases stands'
      rw [Resource.Since, Resource.closings, metadata, Arena.get_add_next]
      exact ⟨Arena.since_add.mpr rfl, fresh⟩
  · intro q since free
    rw [backing] at free
    obtain holds | ⟨md', rfl, made⟩ := shows_.covers (.module image) since
    · exact absurd holds free
    · rw [metadata] at made
      cases Arena.since_add.mp made
      exact absurd (.metadata rfl stands) free
  · intro i
    rw [backing, shows_.since_image]
    exact own i
  · intro i owns
    rw [backing] at owns
    rw [(own i).mp owns]
    exact shows_.isOpen
  · intro m' e
    rw [backing] at e
    cases e
    exact ⟨made, _, _, custody⟩

end Loaded

/-! ## Loading -/

/-- Preparing an opened image for parsing makes no metadata, modules or files either. -/
lemma prepared_others (w : World) (text : String) (mapped : Bool) (content : Bytes)
    (directories : DirectoryTable) (resolver : Option (Ref .resolver)) :
    (prepared w text mapped content directories resolver).metadata = w.metadata ∧
    (prepared w text mapped content directories resolver).modules = w.modules ∧
    (prepared w text mapped content directories resolver).files = w.files :=
  opened_others w (.ofString text) mapped content directories

/-- Metadata that make no module have been closed, and no module is made. -/
lemma refused_of_parses {image context content w refusal v}
    (prs : Parses image context content w (.error refusal) v) :
    w.metadata.Adds (·.closings = 1) v.metadata ∧ v.modules = w.modules := by
  cases prs with
  | raised => exact ⟨.inl rfl, rfl⟩
  | @incomplete m =>
    refine ⟨.inr ⟨⟨m, w.metadataParser.announced, 1⟩, rfl, ?_⟩, rfl⟩
    exact Arena.change_add_next w.metadata (opening w m)
      fun o => { o with closings := o.closings + 1 }

/-- Metadata that make a module are open, and the module stands on them. -/
lemma made_of_parses {image context content w m v}
    (prs : Parses image context content w (.ok m) v) :
    w.modules.Since v.modules m ∧ w.modules.cells <+: v.modules.cells ∧
      (∃ md, md.closings = 0 ∧ v.metadata = w.metadata.add md) ∧
      (v.modules.get m).custody = (some image, some w.metadata.next) := by
  have custody : (v.modules.get m).custody = (some image, some w.metadata.next) := by
    rw [prs.module]
    rfl
  cases prs with
  | @complete md =>
    exact ⟨Arena.since_add.mpr rfl, Arena.prefix_add List.prefix_rfl, ⟨opening w md, rfl, rfl⟩,
      custody⟩

/-- Whatever file comes out of loading a path is in balance. -/
lemma Loads.balanced {extension text mapped symbols resolver key w f v}
    (loads : Loads extension text mapped symbols resolver key w (.ok f) v) : Balanced w v f := by
  cases loads with
  | unrecognized ops =>
    obtain ⟨handles, mappings, metadata, images, modules, files⟩ := refused_of_opens ops
    exact balanced_unrecognized
      ⟨handles, mappings, metadata, images, modules, Arena.prefix_add files⟩
      (Arena.since_next files) (congrArg LoadedFile.backing (World.get_withFile _ rfl))
  | @native content directories recog plain =>
    obtain ⟨metadata, modules, files⟩ :=
      opened_others w (.ofString text) mapped content directories
    have grown : w.files.cells <+:
      (opened w (.ofString text) mapped content directories).files.cells := files ▸ List.prefix_rfl
    have new : w.files.Since ((opened w (.ofString text) mapped content directories).files.add
        (imageFile text w.images.next key)) w.files.next := by
      rw [files]
      exact Arena.since_add.mpr rfl
    refine balanced_image (?_ : Shows w _ (.ofString text) mapped content directories)
      (Arena.prefix_add grown) ?_ ?_ (.inl metadata) modules
    · exact ⟨rfl, rfl, rfl⟩
    · exact new
    · exact congrArg LoadedFile.backing (World.get_withFile _ files)
  | @unreadable content directories refusal v recog managed prs =>
    obtain ⟨metadata, modules, files⟩ := prepared_others w text mapped content directories resolver
    obtain ⟨closed, same⟩ := refused_of_parses prs
    rw [metadata] at closed
    rw [modules] at same
    obtain ⟨_, _, _, rfl⟩ := prs.normal
    have grown : w.files.cells <+:
      (prepared w text mapped content directories resolver).files.cells := files ▸ List.prefix_rfl
    refine balanced_image (?_ : Shows w _ (.ofString text) mapped content directories)
      (Arena.prefix_add grown) ?_ ?_ closed same
    · exact ⟨rfl, rfl, rfl⟩
    · exact Arena.since_next grown
    · exact congrArg LoadedFile.backing (World.get_withFile _ rfl)
  | @module content directories m name v _ _ recog managed prs known wrs =>
    obtain ⟨metadata, modules, files⟩ := prepared_others w text mapped content directories resolver
    obtain ⟨new, made, ⟨md, fresh, added⟩, owned⟩ := made_of_parses prs
    obtain ⟨backing, custody⟩ := wrs.made
    rw [modules] at new made
    rw [metadata] at added owned
    -- Wrapping changes the new module and not what it owns, and makes the file.
    obtain ⟨name', trace, log, g, rfl, _, rfl⟩ := wrs.normal
    obtain ⟨_, _, _, rfl⟩ := prs.normal
    have grown : w.files.cells <+:
      (prepared w text mapped content directories resolver).files.cells := files ▸ List.prefix_rfl
    refine balanced_module (?_ : Shows w _ (.ofString text) mapped content directories)
      (Arena.prefix_add grown) ?_ backing ?_ ((custody m).trans owned) added fresh
      (Arena.prefix_change made ?_)
    · exact ⟨rfl, rfl, rfl⟩
    · exact Arena.since_next grown
    · exact Arena.since_change.mpr new
    · exact new.1

end PEInspect.Loading
