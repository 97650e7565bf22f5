import PEInspect.Proofs.World.Arena
import PEInspect.Proofs.World.Effects

/-!
# Resources

Handles, maps and metadata are resources: they are opened, and each of them counts how often it has
been closed. This module says which resources have been opened between two worlds, which of them a
backing holds through its image and its module, and what it means for a world to grow out of another
one and for the objects made since some world to be kept.
-/

namespace PEInspect

namespace Arena

variable {kind : ObjectKind} {α β : Type}

/-- An object has been made between two states of an arena. -/
def Since (a b : Arena kind α) (r : Ref kind) : Prop :=
  a.cells.length ≤ r.index ∧ r.index < b.cells.length

/-- Nothing has been made since now. -/
lemma not_since_self (a : Arena kind α) (r : Ref kind) : ¬ Since a a r :=
  fun since => absurd since.2 (Nat.not_lt_of_le since.1)

/-- All that has been made is what has been added. -/
lemma since_add {a : Arena kind α} {x : α} {r : Ref kind} : Since a (a.add x) r ↔ r = a.next := by
  rw [Since, length_add]
  constructor
  · intro ⟨ge, lt⟩
    exact ref_ext (Nat.le_antisymm (Nat.le_of_lt_succ lt) ge)
  · rintro rfl
    exact ⟨Nat.le_refl _, Nat.lt_succ_self _⟩

/-- To change the object that has just been added is to add the changed one. -/
lemma change_add_next [Inhabited α] (a : Arena kind α) (x : α) (f : α → α) :
    (a.add x).change a.next f = a.add (f x) := by
  rw [change, get_add_next]
  simp [add, set, next]

/-- An arena that grows by an object starts as before. -/
lemma prefix_add {a b : Arena kind α} {x : α} (grown : a.cells <+: b.cells) :
    a.cells <+: (b.add x).cells :=
  grown.trans (List.prefix_append _ _)

/-- An arena in which a new object is changed starts as before. -/
lemma prefix_change [Inhabited α] {a b : Arena kind α} {r : Ref kind} {f : α → α}
    (grown : a.cells <+: b.cells) (new : a.cells.length ≤ r.index) :
    a.cells <+: (b.change r f).cells := by
  obtain ⟨rest, e⟩ := grown
  rw [change, set, ← e, List.set_append_right _ _ new]
  exact List.prefix_append _ _

/-- The object that is added to an arena that has grown is a new one. -/
lemma since_next {a b : Arena kind α} {x : α} (grown : a.cells <+: b.cells) :
    Since a (b.add x) b.next := by
  rw [Since, length_add]
  exact ⟨grown.length_le, Nat.lt_succ_self _⟩

/-- A change makes nothing. -/
lemma since_change [Inhabited α] {a b : Arena kind α} {r s : Ref kind} {f : α → α} :
    Since a (b.change r f) s ↔ Since a b s := by
  rw [Since, Since, length_change]

/-- At most one object has been added to an arena, and it has a property. -/
def Adds (p : α → Prop) (a b : Arena kind α) : Prop :=
  b = a ∨ ∃ x, p x ∧ b = a.add x

/-- An arena with at most one more object starts as before. -/
lemma Adds.grown {p : α → Prop} {a b : Arena kind α} (adds : Adds p a b) :
    a.cells <+: b.cells := by
  obtain rfl | ⟨x, _, rfl⟩ := adds
  · exact List.prefix_rfl
  · exact prefix_add List.prefix_rfl

/-- The object that has been made is the one with the property. -/
lemma Adds.get [Inhabited α] {p : α → Prop} {a b : Arena kind α} {r : Ref kind} (adds : Adds p a b)
    (since : Since a b r) : p (b.get r) := by
  obtain rfl | ⟨x, holds, rfl⟩ := adds
  · exact absurd since (not_since_self _ r)
  · rw [since_add.mp since, get_add_next]
    exact holds

/-- From one state of an arena to another one, the objects made since a first state stay, and keep a
property. -/
def Keeps [Inhabited α] (p : α → β) (first a b : Arena kind α) : Prop :=
  ∀ r, Since first a r → Since first b r ∧ p (b.get r) = p (a.get r)

/-- Growing keeps everything. -/
lemma keeps_of_prefix [Inhabited α] {first a b : Arena kind α} (p : α → β)
    (grown : a.cells <+: b.cells) : Keeps p first a b := by
  intro r ⟨ge, lt⟩
  obtain ⟨rest, e⟩ := grown
  -- New objects come behind the old ones, so that those stay where they are.
  have more : a.cells.length ≤ b.cells.length := by simp [← e]
  refine ⟨⟨ge, Nat.lt_of_lt_of_le lt more⟩, congrArg p ?_⟩
  rw [get, get, ← e, List.getD_eq_getElem?_getD, List.getD_eq_getElem?_getD,
    List.getElem?_append_left lt]

end Arena

/-! ## Handles, maps and metadata -/

/-- Something that is opened and has to be closed. -/
inductive Resource where
  | handle (r : Ref .handle)
  | mapping (r : Ref .mapping)
  | metadata (r : Ref .metadata)

namespace Resource

/-- How often a resource has been closed. -/
def closings (w : World) : Resource → Nat
  | .handle r => (w.handles.get r).closings
  | .mapping r => (w.mappings.get r).closings
  | .metadata r => (w.metadata.get r).closings

/-- A resource has been opened between two worlds. -/
def Since (w v : World) : Resource → Prop
  | .handle r => w.handles.Since v.handles r
  | .mapping r => w.mappings.Since v.mappings r
  | .metadata r => w.metadata.Since v.metadata r

end Resource

/-- The handle below an image. -/
def Image.handle? (i : Image) : Option (Ref .handle) :=
  match i.body with
  | .parsed _ _ handle => handle
  | .scripted .. => none

/-- An image that has not been closed: it still has its directories. -/
def Image.IsOpen (i : Image) : Prop :=
  ∃ directories view handle, i.body = .parsed (some directories) view handle

/-- The metadata that a module stands on. -/
def ModuleBody.metadata? : ModuleBody → Option (Ref .metadata)
  | .parsed metadata _ => some metadata
  | .scripted _ => none

/-- What a module owns: its image and its metadata. -/
def ManagedModule.custody (m : ManagedModule) : Option (Ref .image) × Option (Ref .metadata) :=
  (m.image, m.body.metadata?)

/-- The image that a backing owns in a world: its own, or the one of its module. -/
inductive Owns (w : World) : Backing → Ref .image → Prop where
  | image {i} :
    Owns w (.image i) i
  | module {m i} :
    (w.modules.get m).image = some i →
    Owns w (.module m) i

/-- The resources that a backing holds in a world. -/
inductive Holds (w : World) (b : Backing) : Resource → Prop where
  | handle {i h} :
    Owns w b i →
    (w.images.get i).handle? = some h →
    Holds w b (.handle h)
  | mapping {i map} :
    Owns w b i →
    Images.map? (w.images.get i) = some map →
    Holds w b (.mapping map)
  | metadata {m md} :
    b = .module m →
    (w.modules.get m).body.metadata? = some md →
    Holds w b (.metadata md)

/-! ## Later worlds -/

/-- A world has grown out of another one: there are new objects, and the others are as they were. -/
structure Grown (w v : World) : Prop where
  handles : w.handles.cells <+: v.handles.cells
  mappings : w.mappings.cells <+: v.mappings.cells
  metadata : w.metadata.cells <+: v.metadata.cells
  images : w.images.cells <+: v.images.cells
  modules : w.modules.cells <+: v.modules.cells
  files : w.files.cells <+: v.files.cells

/-- A world has grown out of itself. -/
lemma Grown.refl (w : World) : Grown w w where
  handles := List.prefix_rfl
  mappings := List.prefix_rfl
  metadata := List.prefix_rfl
  images := List.prefix_rfl
  modules := List.prefix_rfl
  files := List.prefix_rfl

/-- From one world to a later one, the objects made since a first world are kept: no resource has
been closed meanwhile, images are as open as before, modules own what they owned, and files stand on
what they stood on. -/
structure Kept (first w v : World) : Prop where
  handles : Arena.Keeps FileHandle.closings first.handles w.handles v.handles
  mappings : Arena.Keeps Mapping.closings first.mappings w.mappings v.mappings
  metadata : Arena.Keeps OpenMetadata.closings first.metadata w.metadata v.metadata
  images : Arena.Keeps Image.body first.images w.images v.images
  modules : Arena.Keeps ManagedModule.custody first.modules w.modules v.modules
  files : Arena.Keeps LoadedFile.backing first.files w.files v.files

/-- Growing keeps what has been made since any world. -/
lemma Grown.kept {w v : World} (grown : Grown w v) (first : World) : Kept first w v where
  handles := Arena.keeps_of_prefix _ grown.handles
  mappings := Arena.keeps_of_prefix _ grown.mappings
  metadata := Arena.keeps_of_prefix _ grown.metadata
  images := Arena.keeps_of_prefix _ grown.images
  modules := Arena.keeps_of_prefix _ grown.modules
  files := Arena.keeps_of_prefix _ grown.files

/-- Resources that are kept have been closed as often as before. -/
lemma Kept.closings {first w v : World} (kept : Kept first w v) {q : Resource}
    (since : q.Since first w) : q.closings v = q.closings w := by
  cases q with
  | handle r => exact (kept.handles r since).2
  | mapping r => exact (kept.mappings r since).2
  | metadata r => exact (kept.metadata r since).2

/-- What has been made before is still there in a world that keeps it. -/
lemma Kept.since {first w v : World} (kept : Kept first w v) {q : Resource}
    (since : q.Since first w) : q.Since first v := by
  cases q with
  | handle r => exact (kept.handles r since).1
  | mapping r => exact (kept.mappings r since).1
  | metadata r => exact (kept.metadata r since).1

/-! ## What is held in two worlds -/

section Held

variable {w v : World} {b : Backing}
  (modules : ∀ m, b = .module m → (v.modules.get m).custody = (w.modules.get m).custody)
include modules

/-- Where modules own the same, a backing owns the same image. -/
lemma owns_iff {i : Ref .image} : Owns v b i ↔ Owns w b i := by
  constructor
  · intro owns
    cases owns with
    | image => exact .image
    | @module m _ e =>
      have image := congrArg Prod.fst (modules m rfl)
      exact .module (image.symm.trans e)
  · intro owns
    cases owns with
    | image => exact .image
    | @module m _ e =>
      have image := congrArg Prod.fst (modules m rfl)
      exact .module (image.trans e)

/-- Where, besides, the images that are owned stand on the same, a backing holds the same. -/
lemma holds_iff (images : ∀ i, Owns w b i → (v.images.get i).body = (w.images.get i).body)
    {q : Resource} : Holds v b q ↔ Holds w b q := by
  have metadata (m) (e : b = .module m) :
      (v.modules.get m).body.metadata? = (w.modules.get m).body.metadata? :=
    congrArg Prod.snd (modules m e)
  constructor
  · intro holds
    cases holds with
    | handle owns e =>
      have own := (owns_iff modules).mp owns
      rw [Image.handle?, images _ own] at e
      exact .handle own e
    | mapping owns e =>
      have own := (owns_iff modules).mp owns
      rw [Images.map?, images _ own] at e
      exact .mapping own e
    | metadata e stands =>
      rw [metadata _ e] at stands
      exact .metadata e stands
  · intro holds
    cases holds with
    | handle own e =>
      refine .handle ((owns_iff modules).mpr own) ?_
      rw [Image.handle?, images _ own]
      exact e
    | mapping own e =>
      refine .mapping ((owns_iff modules).mpr own) ?_
      rw [Images.map?, images _ own]
      exact e
    | metadata e stands =>
      refine .metadata e ?_
      rw [metadata _ e]
      exact stands

end Held

/-- Metadata apart, a module holds what its image holds. -/
lemma holds_module {w : World} {m : Ref .module} {i : Ref .image} {q : Resource}
    (image : (w.modules.get m).image = some i) (other : ∀ md, q ≠ .metadata md) :
    Holds w (.module m) q ↔ Holds w (.image i) q := by
  have own (j) (owns : Owns w (.module m) j) : j = i := by
    cases owns with
    | module e =>
      rw [image] at e
      cases e
      rfl
  constructor
  · intro holds
    cases holds with
    | handle owns e =>
      cases own _ owns
      exact .handle .image e
    | mapping owns e =>
      cases own _ owns
      exact .mapping .image e
    | @metadata _ md => exact absurd rfl (other md)
  · intro holds
    cases holds with
    | handle owns e =>
      cases owns
      exact .handle (.module image) e
    | mapping owns e =>
      cases owns
      exact .mapping (.module image) e
    | @metadata _ md => exact absurd rfl (other md)

end PEInspect
