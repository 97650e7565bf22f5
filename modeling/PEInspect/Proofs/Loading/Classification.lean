import Mathlib
import PEInspect.Proofs.Loading.Inversion

/-!
# Classification

What a loaded file is, in terms of the disk and of what the two parsers answer. A path becomes an
unrecognized file exactly when there is no image at it, and a module exactly when there is an image
with a runtime header and with metadata that have a module row; every other path becomes an image.
The views of the file follow: its image is the one that loading has opened, and only a module has a
module and can have an assembly (`fromTarget_classified`).
-/

namespace PEInspect.Loading

open PEInspect.Action Opening Parsing

/-- There is no image at a path: the file cannot be read, it is empty, its signature is missing, or
the header parser fails on it or sees no image in it. -/
inductive NoImage (w : World) (path : Path) (mapped : Bool) : Prop where
  | unreadable {f} :
    w.disk.read path = .error f →
    NoImage w path mapped
  | empty :
    w.disk.read path = .ok [] →
    NoImage w path mapped
  | unsigned {content} :
    w.disk.read path = .ok content →
    looksLikeImage content = false →
    NoImage w path mapped
  | raised {content text} :
    w.disk.read path = .ok content →
    w.headerParser.parse (sourceOf path mapped content) = .raised text →
    NoImage w path mapped
  | rejected {content} :
    w.disk.read path = .ok content →
    w.headerParser.parse (sourceOf path mapped content) = .rejected →
    NoImage w path mapped

/-- A directory table leads to a runtime header: it is long enough to have the entry for it, and the
entry points somewhere and has room for the header. -/
structure HasRuntimeHeader (t : DirectoryTable) : Prop where
  listed : 15 ≤ t.entries.length
  placed : t.runtime.rva ≠ 0
  sized : 0x48 ≤ t.runtime.size

/-- There is a module at a path: an image with a runtime header, of which the metadata reader opens
tables with a module row. -/
inductive HoldsModule (w : World) (path : Path) (mapped : Bool) : Prop where
  | intro {content directories t} :
    Recognized w path mapped content directories →
    HasRuntimeHeader directories →
    w.metadataParser.parse content = .opened (.tables t) →
    t.modules.rows ≠ [] →
    HoldsModule w path mapped

/-! ## The stages of loading -/

/-- The test for a managed image asks for a runtime header. -/
lemma isManaged_iff (t : DirectoryTable) : t.runtime.isManaged = true ↔ HasRuntimeHeader t := by
  have test : t.runtime.isManaged = true ↔ t.runtime.rva ≠ 0 ∧ 0x48 ≤ t.runtime.size := by
    rw [DataDirectory.isManaged, Bool.and_eq_true, bne_iff_ne, decide_eq_true_eq]
    rfl
  rw [test]
  constructor
  · intro ⟨placed, sized⟩
    refine ⟨?_, placed, sized⟩
    -- An entry that is not listed counts as empty, and an empty one points nowhere.
    by_cases short : t.entries.length ≤ 14
    · have none_ : t.entries[runtimeDirectoryIndex]? = none := List.getElem?_eq_none short
      rw [DirectoryTable.runtime, List.getD_eq_getElem?_getD, none_] at placed
      exact absurd rfl placed
    · exact Nat.lt_of_not_le short
  · intro header
    exact ⟨header.placed, header.sized⟩

/-- A path that is not opened holds no image. -/
lemma noImage_of_opens {w v path mapped refusal}
    (ops : Opens path mapped w (.error refusal) v) : NoImage w path mapped := by
  cases ops with
  | unreadable rd => exact .unreadable rd
  | empty rd _ => exact .empty rd
  | unsigned rd _ plain => exact .unsigned rd plain
  | raised rd _ answer => exact .raised rd answer
  | rejected rd _ answer => exact .rejected rd answer

/-- A path that holds an image is not one that holds none. -/
lemma not_noImage_of_recognized {w path mapped content directories}
    (recog : Recognized w path mapped content directories) : ¬ NoImage w path mapped := by
  obtain ⟨rd, signed, answer⟩ := recog
  intro no
  cases no with
  | unreadable rd' =>
    rw [rd] at rd'
    cases rd'
  | empty rd' =>
    rw [rd] at rd'
    cases rd'
    cases signed
  | unsigned rd' plain =>
    rw [rd] at rd'
    cases rd'
    rw [signed] at plain
    cases plain
  | raised rd' answer' =>
    rw [rd] at rd'
    cases rd'
    rw [answer] at answer'
    cases answer'
  | rejected rd' answer' =>
    rw [rd] at rd'
    cases rd'
    rw [answer] at answer'
    cases answer'

/-- A path that holds a module is not one without an image. -/
lemma HoldsModule.not_noImage {w path mapped} (holds : HoldsModule w path mapped) :
    ¬ NoImage w path mapped := by
  obtain ⟨recog, _, _, _⟩ := holds
  exact not_noImage_of_recognized recog

/-- A path is recognized with one content and one directory table only. -/
lemma recognized_unique {w path mapped content content' directories directories'}
    (recog : Recognized w path mapped content directories)
    (recog' : Recognized w path mapped content' directories') :
    content' = content ∧ directories' = directories := by
  obtain ⟨rd, _, answer⟩ := recog
  obtain ⟨rd', _, answer'⟩ := recog'
  rw [rd] at rd'
  cases rd'
  rw [answer] at answer'
  cases answer'
  exact ⟨rfl, rfl⟩

/-- Opening an image leaves the metadata parser as it is. -/
lemma prepared_metadataParser {w text mapped content directories resolver} :
    (prepared w text mapped content directories resolver).metadataParser = w.metadataParser := by
  cases mapped <;> rfl

/-- An image behind which a module is parsed holds it. -/
lemma holdsModule_of_parses {w : World} {text mapped content directories resolver m v}
    (recog : Recognized w (.ofString text) mapped content directories)
    (managed : directories.runtime.isManaged = true)
    (prs : Parses w.images.next (some w.contexts.next) content
      (prepared w text mapped content directories resolver) (.ok m) v) :
    HoldsModule w (.ofString text) mapped := by
  cases prs with
  | complete answer full =>
    obtain ⟨t, rfl, rows⟩ := missing?_eq_none.mp full
    rw [prepared_metadataParser] at answer
    exact .intro recog ((isManaged_iff _).mp managed) answer rows

/-- An image behind which no module is parsed holds none. -/
lemma not_holdsModule_of_parses {w : World} {text mapped content directories resolver refusal v}
    (recog : Recognized w (.ofString text) mapped content directories)
    (prs : Parses w.images.next (some w.contexts.next) content
      (prepared w text mapped content directories resolver) (.error refusal) v) :
    ¬ HoldsModule w (.ofString text) mapped := by
  intro ⟨recog', _, answer, rows⟩
  obtain ⟨rfl, rfl⟩ := recognized_unique recog recog'
  cases prs with
  | raised answer' =>
    rw [prepared_metadataParser, answer] at answer'
    cases answer'
  | incomplete answer' lack =>
    rw [prepared_metadataParser, answer] at answer'
    cases answer'
    rw [missing?_eq_none.mpr ⟨_, rfl, rows⟩] at lack
    cases lack

/-- An image without a runtime header holds no module. -/
lemma not_holdsModule_of_native {w : World} {path mapped content directories}
    (recog : Recognized w path mapped content directories)
    (plain : directories.runtime.isManaged = false) : ¬ HoldsModule w path mapped := by
  intro ⟨recog', header, _, _⟩
  obtain ⟨rfl, rfl⟩ := recognized_unique recog recog'
  rw [(isManaged_iff _).mpr header] at plain
  cases plain

/-! ## The files that come out -/

/-- A file has been made of a module, and modules own what they owned. -/
structure Made (m : Ref .module) (w v : World) (file : LoadedFile) : Prop where
  backing : file.backing = .module m
  custody : ∀ s, (v.modules.get s).custody = (w.modules.get s).custody

/-- Whatever file comes out of wrapping a module stands on the module. -/
lemma Wraps.made {extension m symbols key w f v}
    (wrs : Wraps extension m symbols key w (.ok f) v) : Made m w v (v.files.get f) := by
  obtain ⟨name, trace, log, g, rfl, custody, rfl⟩ := wrs.normal
  constructor
  · exact congrArg LoadedFile.backing (Arena.get_add_next w.files (fileOf w m key name))
  · exact Arena.get_change_same ManagedModule.custody custody

/-- What a path has been loaded as, and what the views of the file show. -/
structure Classified (w : World) (text : String) (mapped : Bool) (v : World) (file : LoadedFile) :
    Prop where
  /-- The file is unrecognized exactly when there is no image. -/
  unrecognized : file.backing.kind = "UNRECOGNIZED" ↔ NoImage w (.ofString text) mapped
  /-- The file is a module exactly when there is one. -/
  module : file.backing.kind = "MODULE" ↔ HoldsModule w (.ofString text) mapped
  /-- The file is an image in all other cases. -/
  image : file.backing.kind = "IMAGE" ↔
    ¬ NoImage w (.ofString text) mapped ∧ ¬ HoldsModule w (.ofString text) mapped
  /-- Only a module shows a module. -/
  moduleView : (Files.moduleOf? file.backing).isSome = true ↔ file.backing.kind = "MODULE"
  /-- An unrecognized file shows no image. -/
  noImageView : file.backing.kind = "UNRECOGNIZED" →
    (Files.imageOf? file.backing).Runs v (.ok none) v
  /-- Any other file shows the image that opening the path has made, and its module owns it. -/
  imageView : file.backing.kind ≠ "UNRECOGNIZED" →
    ∃ i u, (openTarget (.path text) mapped).Runs w (.ok (.ok i)) u ∧
      (Files.imageOf? file.backing).Runs v (.ok (some i)) v ∧
      ∀ m, Files.moduleOf? file.backing = some m → (v.modules.get m).image = some i
  /-- Only a module can show an assembly. -/
  assemblyView : file.backing.kind ≠ "MODULE" →
    (Files.assemblyOf? file.backing).Runs v (.ok none) v
  /-- An unrecognized file keeps the path as it was given. -/
  path : file.backing.kind = "UNRECOGNIZED" → file.path = text

/-- A path without an image is classified as an unrecognized file. -/
lemma classified_unrecognized {w v : World} {text mapped file}
    (no : NoImage w (.ofString text) mapped) (backing : file.backing = .unrecognized)
    (path : file.path = text) : Classified w text mapped v file := by
  have holds : ¬ HoldsModule w (.ofString text) mapped := fun holds => holds.not_noImage no
  have kind : file.backing.kind = "UNRECOGNIZED" := by rw [backing]; rfl
  have image : file.backing.kind ≠ "IMAGE" := by rw [kind]; decide
  have module_ : file.backing.kind ≠ "MODULE" := by rw [kind]; decide
  refine
    { unrecognized := ⟨fun _ => no, fun _ => kind⟩
      module := ⟨fun k => absurd k module_, fun h => absurd h holds⟩
      image := ⟨fun k => absurd k image, fun h => absurd no h.1⟩
      moduleView := ⟨fun view => ?_, fun k => absurd k module_⟩
      noImageView := fun _ => ?_
      imageView := fun k => absurd kind k
      assemblyView := fun _ => ?_
      path := fun _ => path }
  · rw [backing] at view
    cases view
  · rw [backing]
    exact runs_pure _ v
  · rw [backing]
    exact runs_pure _ v

/-- A path with an image that holds no module is classified as an image. -/
lemma classified_image {w v u : World} {text mapped file i}
    (no : ¬ NoImage w (.ofString text) mapped) (holds : ¬ HoldsModule w (.ofString text) mapped)
    (run : (openTarget (.path text) mapped).Runs w (.ok (.ok i)) u)
    (backing : file.backing = .image i) : Classified w text mapped v file := by
  have kind : file.backing.kind = "IMAGE" := by rw [backing]; rfl
  have unrecognized : file.backing.kind ≠ "UNRECOGNIZED" := by rw [kind]; decide
  have module_ : file.backing.kind ≠ "MODULE" := by rw [kind]; decide
  refine
    { unrecognized := ⟨fun k => absurd k unrecognized, fun h => absurd h no⟩
      module := ⟨fun k => absurd k module_, fun h => absurd h holds⟩
      image := ⟨fun _ => ⟨no, holds⟩, fun _ => kind⟩
      moduleView := ⟨fun view => ?_, fun k => absurd k module_⟩
      noImageView := fun k => absurd k unrecognized
      imageView := fun _ => ⟨i, u, run, ?_, ?_⟩
      assemblyView := fun _ => ?_
      path := fun k => absurd k unrecognized }
  · rw [backing] at view
    cases view
  · rw [backing]
    exact runs_pure _ v
  · intro m view
    rw [backing] at view
    cases view
  · rw [backing]
    exact runs_pure _ v

/-- A path with an image that holds a module is classified as a module. -/
lemma classified_module {w v u : World} {text mapped file i m}
    (holds : HoldsModule w (.ofString text) mapped)
    (run : (openTarget (.path text) mapped).Runs w (.ok (.ok i)) u)
    (backing : file.backing = .module m) (owned : (v.modules.get m).image = some i) :
    Classified w text mapped v file := by
  have kind : file.backing.kind = "MODULE" := by rw [backing]; rfl
  have unrecognized : file.backing.kind ≠ "UNRECOGNIZED" := by rw [kind]; decide
  have image : file.backing.kind ≠ "IMAGE" := by rw [kind]; decide
  refine
    { unrecognized := ⟨fun k => absurd k unrecognized, fun h => absurd h holds.not_noImage⟩
      module := ⟨fun _ => holds, fun _ => kind⟩
      image := ⟨fun k => absurd k image, fun h => absurd holds h.2⟩
      moduleView := ⟨fun _ => kind, fun _ => ?_⟩
      noImageView := fun k => absurd k unrecognized
      imageView := fun _ => ⟨i, u, run, ?_, ?_⟩
      assemblyView := fun k => absurd kind k
      path := fun k => absurd k unrecognized }
  · rw [backing]
    rfl
  · rw [backing]
    refine .bind (runs_managedModule m v) ?_
    rw [owned]
    exact runs_pure _ v
  · intro m' view
    rw [backing] at view
    cases view
    exact owned

/-- A recognized path is opened as the next image. -/
lemma runs_openTarget_recognized {w : World} {text mapped content directories}
    (recog : Recognized w (.ofString text) mapped content directories) :
    (openTarget (.path text) mapped).Runs w (.ok (.ok w.images.next))
      (opened w (.ofString text) mapped content directories) := by
  obtain ⟨r, v, run, ops⟩ := exists_opens w text mapped
  cases r with
  | error refusal => exact absurd (noImage_of_opens ops) (not_noImage_of_recognized recog)
  | ok i =>
    cases ops with
    | found recog' =>
      obtain ⟨rfl, rfl⟩ := recognized_unique recog recog'
      exact run

/-- Loading a path with the standard parsers classifies it exactly. -/
theorem fromTarget_classified {l : Loader} {w v : World} {text : String} {mapped : Document.Value}
    {symbols : Bool} {resolver : Option (Ref .resolver)} {key : Option FileKey} {f : Ref .file}
    (images : l.images = .standard) (modules : l.modules = .standard)
    (run : (fromTarget l (.path text) mapped symbols resolver key).Runs w (.ok f) v) :
    Classified w text mapped.isTruthy v (v.files.get f) := by
  -- Of the ways of loading, the result picks those that end in a file.
  generalize loaded : (Except.ok f : Except Failure (Ref .file)) = r at run
  cases fromTarget_loads images modules run with
  | unrecognized ops =>
    cases loaded
    refine classified_unrecognized (noImage_of_opens ops) ?_ ?_
    · exact congrArg LoadedFile.backing (World.get_withFile _ rfl)
    · exact congrArg LoadedFile.path (World.get_withFile _ rfl)
  | @native content directories recog plain =>
    cases loaded
    refine classified_image (not_noImage_of_recognized recog)
      (not_holdsModule_of_native recog plain) (runs_openTarget_recognized recog) ?_
    have files : (opened w (.ofString text) mapped.isTruthy content directories).files = w.files := by
      cases mapped.isTruthy <;> rfl
    exact congrArg LoadedFile.backing (World.get_withFile _ files)
  | unreadable recog managed prs =>
    cases loaded
    refine classified_image (not_noImage_of_recognized recog)
      (not_holdsModule_of_parses recog prs) (runs_openTarget_recognized recog) ?_
    exact congrArg LoadedFile.backing (World.get_withFile _ rfl)
  | @module _ _ m _ _ _ _ recog managed prs known wrs =>
    cases loaded
    obtain ⟨backing, custody⟩ := wrs.made
    have image := congrArg Prod.fst (custody m)
    have owned := congrArg ManagedModule.image prs.module
    exact classified_module (holdsModule_of_parses recog managed prs)
      (runs_openTarget_recognized recog) backing (image.trans owned)

/-! ## A small module -/

/-- Without symbols, loading a path always gives a file. -/
lemma exists_file {l : Loader} (images : l.images = .standard) (modules : l.modules = .standard)
    (w : World) (text : String) (mapped : Document.Value) (resolver : Option (Ref .resolver))
    (key : Option FileKey) :
    ∃ f v, (fromTarget l (.path text) mapped false resolver key).Runs w (.ok f) v := by
  obtain ⟨r, v, run, loads⟩ := exists_loads w text mapped false resolver key images modules
  cases loads with
  | unrecognized => exact ⟨_, _, run⟩
  | native => exact ⟨_, _, run⟩
  | unreadable => exact ⟨_, _, run⟩
  | module recog managed prs known wrs =>
    cases wrs with
    | nameless unknown =>
      have same := known.symm.trans unknown
      cases same
    | bare => exact ⟨_, _, run⟩
    | searched _ on => cases on
    | stopped _ on => cases on

/-- The bytes of a small image: a header that leads to the signature right behind it. -/
def smallImage : Bytes :=
  dosMagic ++ List.replicate 58 0 ++ [0x40, 0, 0, 0] ++ peSignature

/-- The directories of an image with a runtime header. -/
def smallTable : DirectoryTable :=
  ⟨List.replicate 14 ⟨0, 0⟩ ++ [⟨0x2000, 0x48⟩], false⟩

/-- The tables of a module without types. -/
def smallTables : Tables :=
  { modules := .listed [⟨default⟩] }

/-- The directory of the small image. -/
def srv : List Char := "srv".toList

/-- A world with one file, in a working directory below the root: a small image, behind which the
parsers see a module. -/
def moduleWorld (name : List Char) : World where
  disk := { nodes := [([srv, name], .file smallImage)], current := [srv] }
  headerParser := ⟨fun _ => .found smallTable, false⟩
  metadataParser := ⟨fun _ => .opened (.tables smallTables), false⟩

/-- The file of such a world holds a module. -/
lemma holdsModule_moduleWorld {name : List Char} {path : Path} (mapped : Bool)
    (rd : (moduleWorld name).disk.read path = .ok smallImage) :
    HoldsModule (moduleWorld name) path mapped :=
  .intro ⟨rd, by decide, rfl⟩ ⟨by decide, by decide, by decide⟩ rfl (List.cons_ne_nil _ _)

/-- Such a file is loaded as a module, here by its path from the root. -/
theorem fromTarget_classified_module : ∃ f v,
    (fromTarget {} (.path "/srv/Lib.dll") (.bool true) false none none).Runs
      (moduleWorld "Lib.dll".toList) (.ok f) v ∧ (v.files.get f).backing.kind = "MODULE" := by
  obtain ⟨f, v, run⟩ := exists_file (l := {}) rfl rfl (moduleWorld "Lib.dll".toList) "/srv/Lib.dll"
    (.bool true) none none
  have rd : (moduleWorld "Lib.dll".toList).disk.read (.ofString "/srv/Lib.dll")
      = .ok smallImage := by
    cbv
  have classified := fromTarget_classified rfl rfl run
  exact ⟨f, v, run, classified.module.mpr (holdsModule_moduleWorld _ rd)⟩

end PEInspect.Loading
