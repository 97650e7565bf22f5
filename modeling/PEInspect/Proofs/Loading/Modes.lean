import PEInspect.Proofs.Loading.Blindness
import PEInspect.Proofs.Loading.Classification

/-!
# Mapped and read files

A path can be loaded by mapping its file into memory or by reading it. As long as the header parser
answers for a path as it does for the bytes of its file, both ways end with the same result, and
nobody who looks at the loaded file can tell them apart, but for asking whether its image is mapped.
Either opening is refused in both ways, or it makes images that are twins
(`exists_opensAlike`); everything after that is blind to the difference.
-/

namespace PEInspect

namespace Opening

open PEInspect.Action World

/-- A file can be read and has the signature of an image, so that the header parser is called. -/
def signed (w : World) (path : Path) : Bool :=
  match w.disk.read path with
  | .ok content => looksLikeImage content
  | .error _ => false

/-- Whether a path is signed is told by its content. -/
lemma signed_of_read {w : World} {path : Path} {content : Bytes}
    (rd : w.disk.read path = .ok content) : signed w path = looksLikeImage content := by
  rw [signed, rd]

/-- A refusal changes nothing but what has been open for a while and the header parser's log. -/
lemma Opens.refused {path mapped w refusal v} (ops : Opens path mapped w (.error refusal) v) :
    v = { w.altered v.handles v.mappings w.images v.trace w.log with
      headerLogSilenced := w.headerLogSilenced || signed w path } := by
  cases ops with
  | unreadable rd =>
    rw [signed, rd, Bool.or_false]
    rfl
  | empty rd =>
    have plain : looksLikeImage [] = false := by decide
    rw [signed_of_read rd, plain, Bool.or_false]
    rfl
  | unsigned rd _ plain =>
    rw [signed_of_read rd, plain, Bool.or_false]
    cases mapped <;> rfl
  | raised rd signed_ =>
    rw [signed_of_read rd, signed_, Bool.or_true]
    cases mapped <;> rfl
  | rejected rd signed_ =>
    rw [signed_of_read rd, signed_, Bool.or_true]
    cases mapped <;> rfl

/-- Refusals of one path leave worlds that are alike. -/
lemma refused_alike {path mapped mapped' w e e' v u} (ops : Opens path mapped w (.error e) v)
    (ops' : Opens path mapped' w (.error e') u) : Alike v u ∧ u.images = v.images := by
  rw [ops.refused, ops'.refused]
  exact ⟨⟨_, _, _, _, _, rfl⟩, rfl⟩

/-- The header parser answers for a path as it does for the bytes of the file at the path. -/
def AnswersAlike (w : World) (path : Path) : Prop :=
  ∀ content, w.disk.read path = .ok content →
    w.headerParser.parse (.path path.toString content) = w.headerParser.parse (.memory content)

/-- A file that is recognized when it is mapped is recognized when it is read, and the reverse. -/
lemma recognized_iff {w : World} {path : Path} (answers : AnswersAlike w path)
    {content directories} :
    Recognized w path true content directories ↔ Recognized w path false content directories := by
  constructor
  · rintro ⟨rd, signed, answer⟩
    exact ⟨rd, signed, (answers content rd).symm.trans answer⟩
  · rintro ⟨rd, signed, answer⟩
    exact ⟨rd, signed, (answers content rd).trans answer⟩

/-- The image of a mapped file and that of a file that was read are twins. -/
lemma opened_twins (w : World) (path : Path) (content : Bytes) (directories : DirectoryTable) :
    Twins w.images.next (opened w path true content directories)
      (opened w path false content directories) := by
  have bytes (mapped : Bool) : Images.contentOf (opened w path mapped content directories).mappings
      ((opened w path mapped content directories).images.get w.images.next) = .ok content :=
    (Images.runs_content _ _).unique (Loading.runs_content_opened rfl rfl) |>.1
  refine ⟨⟨_, _, _, _, _, rfl⟩, ?_, ?_, ?_⟩
  · rw [Loading.opened_get_image, Loading.opened_get_image]
    rfl
  · intro index
    rw [Loading.opened_get_image, Loading.opened_get_image]
    rfl
  · rw [bytes, bytes]

end Opening

namespace Loading

open PEInspect.Action World Opening

variable {l : Loader} {w : World}

/-- An image that was mapped in one world and read in another, in which nothing is open for it. -/
structure Modes (i : Ref .image) (w v u : World) : Prop where
  mapped : Images.isMapped? (v.images.get i) = some true
  read : Images.isMapped? (u.images.get i) = some false
  handles : u.handles = w.handles
  mappings : u.mappings = w.mappings

/-- What opening a path by mapping and by reading come to. -/
inductive OpensAlike (l : Loader) (w : World) :
    Except Refusal (Ref .image) → World → Except Refusal (Ref .image) → World → Prop where
  | refused {e e' : Refusal} {v u : World} :
    Alike v u →
    u.images = v.images →
    OpensAlike l w (.error e) v (.error e') u
  | opened {i : Ref .image} {v u : World} :
    Twins i v u →
    (∀ j, j ≠ i → u.images.get j = v.images.get j) →
    (l.images = .standard → Modes i w v u) →
    OpensAlike l w (.ok i) v (.ok i) u

/-- A recognized path is opened alike in both ways. -/
lemma opensAlike_recognized {path : Path} {content : Bytes} {directories : DirectoryTable} :
    OpensAlike l w (.ok w.images.next) (opened w path true content directories)
      (.ok w.images.next) (opened w path false content directories) := by
  refine .opened (opened_twins w path content directories) ?_ ?_
  · intro j other
    exact (Arena.get_add_of_ne _ _ other).trans (Arena.get_add_of_ne _ _ other).symm
  · intro _
    refine ⟨?_, ?_, rfl, rfl⟩
    · rw [opened_get_image]
      rfl
    · rw [opened_get_image]
      rfl

/-- Opening by mapping and by reading come to the same. -/
lemma exists_opensAlike (l : Loader) (w : World) (text : String)
    (answers : AnswersAlike w (.ofString text)) :
    ∃ r v r' u, (openImage l (.path text) (.bool true)).Runs w (.ok r) v ∧
      (openImage l (.path text) (.bool false)).Runs w (.ok r') u ∧ OpensAlike l w r v r' u := by
  rw [openImage, openImage]
  cases images : l.images with
  | scripted image =>
    have run (mapped : Document.Value) := runs_emit (.imageOpened (.path text) mapped) w
    cases image with
    | none =>
      exact ⟨_, _, _, _, .bind (run _) (runs_pure _ _), .bind (run _) (runs_pure _ _),
        .refused ⟨_, _, _, _, _, rfl⟩ rfl⟩
    | some i =>
      refine ⟨.ok i, _, .ok i, _, .bind (run _) (.bind rfl (runs_pure _ _)),
        .bind (run _) (.bind rfl (runs_pure _ _)), .opened ?_ (fun _ _ => rfl) ?_⟩
      · exact ⟨⟨_, _, _, _, _, rfl⟩, rfl, fun _ => rfl, rfl⟩
      · rw [images]
        intro other
        cases other
  | standard =>
    obtain ⟨r, v, run, ops⟩ := exists_opens w text true
    obtain ⟨r', u, run', ops'⟩ := exists_opens w text false
    refine ⟨r, v, r', u, run, run', ?_⟩
    cases r with
    | ok i =>
      cases ops with
      | found recog =>
        have again := runs_openTarget_recognized ((recognized_iff answers).mp recog)
        obtain ⟨same, rfl⟩ := run'.unique again
        cases same
        exact opensAlike_recognized
    | error e =>
      cases r' with
      | error e' =>
        obtain ⟨alike, same⟩ := refused_alike ops ops'
        exact .refused alike same
      | ok i =>
        -- What is recognized when it is read cannot be refused when it is mapped.
        cases ops' with
        | found recog =>
          have again := runs_openTarget_recognized ((recognized_iff answers).mpr recog)
          obtain ⟨same, -⟩ := run.unique again
          cases same

/-! ## The image of a loaded file -/

/-- A file shows an image: its own, or the one of its module. -/
def ShowsImage (w : World) (f : Ref .file) (i : Ref .image) : Prop :=
  (Files.imageOf? (w.files.get f).backing).Runs w (.ok (some i)) w

/-- The image of a file over a module is that of the module. -/
lemma runs_imageOf?_module (m : Ref .module) (w : World) :
    (Files.imageOf? (.module m)).Runs w (.ok (w.modules.get m).image) w :=
  .bind (runs_managedModule m w) (runs_pure _ w)

/-- A module that a loader parses out of an image owns the image and has no symbols. -/
lemma parseModule_made {w v : World} {i : Ref .image} {context m}
    (run : (parseModule l i context).Runs w (.ok (.ok m)) v) :
    ∃ location body, v.modules.get m =
      { location := location, context := some context, image := some i, body := body } := by
  rw [parseModule] at run
  cases modules : l.modules with
  | standard =>
    rw [modules] at run
    have bytes := Images.runs_content i w
    cases content : Images.contentOf w.mappings (w.images.get i) with
    | error f =>
      rw [content] at bytes
      obtain ⟨_, _, run', run⟩ := run.bind_ok
      obtain ⟨same, -⟩ := run'.unique bytes.attempt
      cases same
      cases run
    | ok content_ =>
      rw [content] at bytes
      obtain ⟨r, u, run', prs⟩ := Parsing.exists_parses (some context) bytes
      obtain ⟨same, rfl⟩ := run.unique run'
      cases same
      exact ⟨_, _, prs.module⟩
  | scripted script =>
    rw [modules] at run
    obtain ⟨_, _, -, run⟩ := run.bind_ok
    obtain ⟨_, _, -, run⟩ := run.bind_ok
    cases script with
    | none => cases run
    | some script =>
      obtain ⟨_, _, made, run⟩ := run.bind_ok
      cases made
      cases run
      exact ⟨_, _, World.get_withModule _ _⟩

/-- A module that a loader parses owns the image that it is parsed out of. -/
lemma parseModule_image {w v : World} {i : Ref .image} {context m}
    (run : (parseModule l i context).Runs w (.ok (.ok m)) v) :
    (v.modules.get m).image = some i := by
  obtain ⟨_, _, made⟩ := parseModule_made run
  rw [made]

/-- A file over an image shows it. -/
lemma shows_ofImage {w v : World} {i : Ref .image} {key f}
    (run : (Files.ofImage i key true).Runs w (.ok f) v) : ShowsImage v f i := by
  obtain ⟨x, u, read, run⟩ := run.bind_ok
  have made := (Runs.bind (runs_pure "" u) (runs_addFile _ u)).unique run
  obtain ⟨same, rfl⟩ := made
  cases same
  rw [ShowsImage, World.get_withFile _ rfl]
  exact runs_pure _ _

/-- The file that classifying an image comes to shows the image. -/
lemma shows_classify {w v : World} {label i symbols resolver key f}
    (run : (classify l label i symbols resolver key).Runs w (.ok f) v) : ShowsImage v f i := by
  obtain ⟨managed, _, -, run⟩ := run.bind_ok
  cases managed with
  | false =>
    obtain ⟨_, _, -, run⟩ := run.bind_ok
    exact shows_ofImage run
  | true =>
    obtain ⟨context, _, -, run⟩ := run.bind_ok
    obtain ⟨result, _, parsed, run⟩ := run.bind_ok
    cases result with
    | error refusal =>
      obtain ⟨_, _, -, run⟩ := run.bind_ok
      exact shows_ofImage run
    | ok m =>
      have image := parseModule_image parsed
      obtain ⟨name, _, named, noting⟩ := run.bind_ok
      obtain ⟨-, rfl⟩ := named.unique (runs_name _ m)
      obtain ⟨_, _, noted, wrapping⟩ := noting.bind_ok
      obtain ⟨-, rfl⟩ := noted.unique (runs_debug _ _)
      obtain ⟨r, u, wraps, wrs⟩ := exists_wraps l _ m symbols key
      obtain ⟨same, rfl⟩ := wrapping.unique wraps
      cases same
      obtain ⟨backing, custody⟩ := wrs.made
      have owned : (v.modules.get m).image = some i :=
        (congrArg Prod.fst (custody m)).trans image
      rw [ShowsImage, backing]
      rw [← owned]
      exact runs_imageOf?_module m v

/-! ## What can be asked of a loaded file -/

section SameIn

variable {v u : World} {α β : Type}

/-- An action has the same result in two worlds. -/
def SameIn (v u : World) (action : Action α) : Prop :=
  (action.outcome u).1 = (action.outcome v).1

/-- What is only read is the same where the results are. -/
lemma sameIn_of_reads {action : Action α} {r : World → Except Failure α}
    (run : ∀ w, action.Runs w (r w) w) (same : r u = r v) : SameIn v u action := by
  have left : action.outcome v = (r v, v) := run v
  have right : action.outcome u = (r u, u) := run u
  rw [SameIn, left, right]
  exact same

/-- Actions in a row are the same if what is read first is, and then all that follows. -/
lemma SameIn.bind {action : Action α} {next : α → Action β} {r : World → Except Failure α}
    (run : ∀ w, action.Runs w (r w) w) (same : r u = r v)
    (rest : ∀ x, r v = .ok x → SameIn v u (next x)) : SameIn v u (action >>= next) := by
  have left : action.outcome v = (r v, v) := run v
  have right : action.outcome u = (r u, u) := run u
  rw [SameIn, outcome_bind, outcome_bind, left, right, same]
  cases result : r v with
  | error f => rfl
  | ok x => exact rest x result

/-- A function of the same result is the same. -/
lemma SameIn.map {action : Action α} (same : SameIn v u action) (f : α → β) :
    SameIn v u (f <$> action) := by
  rw [SameIn, outcome_map, outcome_map, same]

/-- The assembly of a module, as its body gives it over some metadata. -/
def assemblyIn (w : World) (m : Ref .module) : Except Failure (Option Assembly) :=
  match (w.modules.get m).body with
  | .scripted script => .ok script.assembly
  | .parsed r _ => (w.metadata.get r).content.assembly

/-- Asking a module for its assembly changes nothing. -/
lemma runs_assembly (m : Ref .module) (w : World) :
    (Modules.assembly m).Runs w (assemblyIn w m) w := by
  refine .bind (runs_managedModule m w) ?_
  rw [assemblyIn]
  cases (w.modules.get m).body with
  | scripted script => exact runs_pure _ w
  | parsed r lookup => exact .bind (.bind (runs_get w) (runs_pure _ w)) (runs_ofExcept _ w)

/-- The size of an image is the same where its bytes are. -/
lemma sameIn_size {image : Option (Ref .image)}
    (bytes : ∀ i, image = some i → Images.contentOf u.mappings (u.images.get i) =
      Images.contentOf v.mappings (v.images.get i)) : SameIn v u (image.mapM Images.size) := by
  cases image with
  | none => rfl
  | some i =>
    refine sameIn_of_reads (fun w => runs_map some (Images.runs_size i w)) ?_
    rw [bytes i rfl]

/-- Worlds that are alike tell the same facts about a file whose image has as many bytes. -/
lemma info_same {f : Ref .file} (alike : Alike v u)
    (bytes : ∀ i, ShowsImage v f i → Images.contentOf u.mappings (u.images.get i) =
      Images.contentOf v.mappings (v.images.get i)) : SameIn v u (Files.info f) := by
  obtain ⟨files, modules, metadata⟩ := alike.kept
  -- The facts are read one after the other, and the last of them, the size, is the only one for
  -- which the image has to be asked.
  refine SameIn.bind (runs_file f) (by rw [files]) fun x known => ?_
  cases known
  simp only [ShowsImage] at bytes
  cases backing : (v.files.get f).backing with
  | unrecognized => rfl
  | image i =>
    rw [backing] at bytes
    have size : SameIn v u ((some i).mapM Images.size) := sameIn_size fun j shown => by
      cases shown
      exact bytes i (runs_pure _ v)
    refine SameIn.bind (runs_pure none) rfl fun _ _ => SameIn.bind (runs_pure (some i)) rfl ?_
    rintro _ ⟨⟩
    exact SameIn.bind (runs_pure none) rfl fun _ _ => SameIn.bind (runs_pure none) rfl fun _ _ =>
      size.map _
  | module m =>
    rw [backing] at bytes
    refine SameIn.bind (runs_assembly m) ?_ fun _ _ => SameIn.bind
      (runs_imageOf?_module m) ?_ ?_
    · rw [assemblyIn, assemblyIn, modules, metadata]
    · rw [modules]
    · rintro _ ⟨⟩
      refine SameIn.bind (fun w => runs_map some (runs_name w m)) ?_ fun _ _ => SameIn.bind
        (fun w => runs_map some (.bind (runs_managedModule m w) (runs_pure _ w))) ?_ fun _ _ => ?_
      · rw [moduleName, moduleName, modules, metadata]
      · rw [modules]
      · refine SameIn.map (sameIn_size fun i shown => bytes i ?_) _
        rw [← shown]
        exact runs_imageOf?_module m v

/-- What is blind to the difference between twins has the same result in them. -/
lemma sameIn_of_blind {i : Ref .image} {action : Action α} (blind : Blind i action)
    (twins : Twins i v u) : SameIn v u action := by
  obtain ⟨r, v', u', runV, runU, -⟩ := blind twins
  have left : action.outcome v = (r, v') := runV
  have right : action.outcome u = (r, u') := runU
  rw [SameIn, left, right]

end SameIn

/-! ## Loading in both ways -/

/-- A file is the same in two worlds to everyone who looks at it: the file itself, with its kind, its
path, its names and its key; its facts; its image, but for where the bytes are; and its module. -/
structure SameFile (f : Ref .file) (v u : World) : Prop where
  file : u.files.get f = v.files.get f
  info : SameIn v u (Files.info f)
  image : ∀ i, ShowsImage v f i → ShowsImage u f i ∧ Twins i v u ∧ SameIn v u (Images.size i)
  module : ∀ m, Files.moduleOf? (v.files.get f).backing = some m →
    u.modules.get m = v.modules.get m ∧ SameIn v u (Modules.name m) ∧
      SameIn v u (Modules.assembly m) ∧ SameIn v u (Modules.types m)

/-- A file shows one image only. -/
lemma ShowsImage.unique {w : World} {f : Ref .file} {i j : Ref .image} (first : ShowsImage w f i)
    (second : ShowsImage w f j) : j = i := by
  obtain ⟨same, -⟩ := Runs.unique first second
  cases same
  rfl

/-- A file shows its image in all worlds that are alike. -/
lemma ShowsImage.alike {f : Ref .file} {i : Ref .image} {v u : World} (shown : ShowsImage v f i)
    (alike : Alike v u) : ShowsImage u f i := by
  obtain ⟨files, modules, -⟩ := alike.kept
  rw [ShowsImage] at shown ⊢
  rw [files]
  cases backing : (v.files.get f).backing with
  | unrecognized =>
    rw [backing] at shown
    cases shown
  | image j =>
    rw [backing] at shown
    cases shown
    exact runs_pure _ u
  | module m =>
    rw [backing] at shown
    obtain ⟨same, -⟩ := (runs_imageOf?_module m v).unique shown
    rw [← same, ← modules]
    exact runs_imageOf?_module m u

/-- A file without an image is the same in worlds that are alike. -/
lemma sameFile_unrecognized {f : Ref .file} {v u : World} (alike : Alike v u)
    (backing : (v.files.get f).backing = .unrecognized) :
    SameFile f v u ∧ ∀ i, ¬ ShowsImage v f i := by
  have hidden (i : Ref .image) : ¬ ShowsImage v f i := by
    rw [ShowsImage, backing]
    nofun
  refine ⟨⟨?_, info_same alike fun i shown => absurd shown (hidden i), ?_, ?_⟩, hidden⟩
  · rw [alike.kept.1]
  · exact fun i shown => absurd shown (hidden i)
  · rw [backing]
    nofun

/-- A file that shows an image is the same in the twins of the image. -/
lemma sameFile_of_shows {f : Ref .file} {i : Ref .image} {v u : World} (twins : Twins i v u)
    (shown : ShowsImage v f i) : SameFile f v u := by
  obtain ⟨files, modules, -⟩ := twins.alike.kept
  refine ⟨by rw [files], info_same twins.alike ?_, ?_, ?_⟩
  · intro j other
    obtain rfl := shown.unique other
    exact twins.content
  · intro j other
    obtain rfl := shown.unique other
    exact ⟨shown.alike twins.alike, twins, sameIn_of_blind Images.blind_size twins⟩
  · intro m backing
    exact ⟨by rw [modules], sameIn_of_blind (Modules.blind_name m) twins,
      sameIn_of_blind (Modules.blind_assembly m) twins,
      sameIn_of_blind (Modules.blind_types m) twins⟩

/-- Mapping a file and reading it come to the same: where the header parser answers for the path as
for the bytes of its file, loading ends in the same failure or the same file, in worlds that are
alike, and all that differs is the image of the file, which is mapped in one and in memory in the
other. -/
theorem mapped_and_read_agree (l : Loader) (w : World) (text : String) (symbols : Bool)
    (resolver : Option (Ref .resolver)) (key : Option FileKey)
    (answers : AnswersAlike w (.ofString text)) :
    ∃ r v u, (fromTarget l (.path text) (.bool true) symbols resolver key).Runs w r v ∧
      (fromTarget l (.path text) (.bool false) symbols resolver key).Runs w r u ∧ Alike v u ∧
      ∀ f, r = .ok f → SameFile f v u ∧
        (∀ i, ShowsImage v f i → l.images = .standard → Modes i w v u) ∧
        ∀ i, ¬ ShowsImage v f i → u.images.get i = v.images.get i := by
  obtain ⟨r, v, r', u, runV, runU, opens⟩ := exists_opensAlike l w text answers
  cases opens with
  | refused alike same =>
    -- The reasons may differ, but the file is made over the path alone.
    obtain ⟨_, _, _, _, _, rfl⟩ := alike
    refine ⟨_, _, _, .bind runV (.bind (runs_debug _ _) (runs_unrecognized text key _)),
      .bind runU (.bind (runs_debug _ _) (runs_unrecognized text key _)), ⟨_, _, _, _, _, rfl⟩, ?_⟩
    rintro f ⟨⟩
    obtain ⟨sameFile, hidden⟩ := sameFile_unrecognized ⟨_, _, _, _, _, rfl⟩
      (congrArg LoadedFile.backing (World.get_withFile (pathFile text key) rfl))
    refine ⟨sameFile, fun i shown => absurd shown (hidden i), fun i _ => ?_⟩
    exact congrArg (Arena.get · i) same
  | @opened i _ _ twins others modes =>
    -- From here on the same actions run from twins.
    obtain ⟨r, v', u', runV', runU', alike, left, right⟩ :=
      blind_classify l text symbols resolver key twins
    refine ⟨r, v', u', .bind runV runV', .bind runU runU', alike, ?_⟩
    rintro f rfl
    have shown := shows_classify runV'
    refine ⟨sameFile_of_shows (twins.step alike left right) shown, fun j other standard => ?_,
      fun j other => ?_⟩
    · obtain rfl := shown.unique other
      obtain ⟨mapped, read, handles, mappings⟩ := modes standard
      refine ⟨?_, ?_, right.handles.trans handles, right.mappings.trans mappings⟩
      · rw [left.images]
        exact mapped
      · rw [right.images]
        exact read
    · rw [left.images, right.images]
      refine others j ?_
      rintro rfl
      exact other shown

/-- A small module is loaded in both ways, here by a path that leads up and down again. -/
theorem mapped_and_read_agree_module :
    AnswersAlike (moduleWorld "Lib.dll".toList) (.ofString "../srv/Lib.dll") ∧ ∃ v u,
      (fromTarget {} (.path "../srv/Lib.dll") (.bool true) false none none).Runs
        (moduleWorld "Lib.dll".toList) (.ok ⟨0⟩) v ∧
      (fromTarget {} (.path "../srv/Lib.dll") (.bool false) false none none).Runs
        (moduleWorld "Lib.dll".toList) (.ok ⟨0⟩) u ∧
      (v.files.get ⟨0⟩).backing = .module ⟨0⟩ ∧ SameFile ⟨0⟩ v u ∧
      Images.isMapped? (v.images.get ⟨0⟩) = some true ∧
      Images.isMapped? (u.images.get ⟨0⟩) = some false := by
  have answers : AnswersAlike (moduleWorld "Lib.dll".toList) (.ofString "../srv/Lib.dll") :=
    fun _ _ => rfl
  obtain ⟨r, v, u, runV, runU, alike, agree⟩ :=
    mapped_and_read_agree {} (moduleWorld "Lib.dll".toList) "../srv/Lib.dll" false none none answers
  -- Which file comes out, and which image it shows, is found by running the loader.
  let loaded := (fromTarget {} (.path "../srv/Lib.dll") (.bool true) false none none).outcome
    (moduleWorld "Lib.dll".toList)
  have result : loaded.1.toOption = some ⟨0⟩ := by decide +kernel
  have backing : (loaded.2.files.get ⟨0⟩).backing = .module ⟨0⟩ := by decide +kernel
  have owned : (loaded.2.modules.get ⟨0⟩).image = some ⟨0⟩ := by decide +kernel
  have run : loaded = (r, v) := runV
  rw [run] at result backing owned
  cases r with
  | error f => cases result
  | ok f =>
    obtain rfl : f = ⟨0⟩ := Option.some.inj result
    obtain ⟨same, modes, -⟩ := agree ⟨0⟩ rfl
    have shown : ShowsImage v ⟨0⟩ ⟨0⟩ := by
      rw [ShowsImage, backing, ← owned]
      exact runs_imageOf?_module _ v
    obtain ⟨mapped, read, -⟩ := modes ⟨0⟩ shown rfl
    exact ⟨answers, v, u, runV, runU, backing, same, mapped, read⟩

end Loading

end PEInspect
