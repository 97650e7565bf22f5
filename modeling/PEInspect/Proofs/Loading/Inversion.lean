import PEInspect.Proofs.Opening.Inversion
import PEInspect.Proofs.Parsing.Inversion
import PEInspect.Proofs.Symbols.Inversion
import PEInspect.Proofs.World.Resources

/-!
# Loading inversion

What a loader with the standard parsers makes of a path, stage by stage. `Wraps` lists the ways in
which a module becomes a file, and `Loads` the ways in which a path does: it is not opened as an
image, its image has no runtime header, the metadata behind that header make no module, or a module
is wrapped. Loading runs in one of these ways (`fromTarget_loads`).
-/

namespace PEInspect

/-- The runtime directory of a directory table, which is empty where the table is too short. -/
def DirectoryTable.runtime (t : DirectoryTable) : DataDirectory :=
  t.entries.getD runtimeDirectoryIndex {}

namespace Loading

open PEInspect.Action Opening Parsing

/-! ## Files of modules -/

/-- The name of a module, as its body gives it over some metadata. -/
def nameOf (metadata : Arena .metadata OpenMetadata) : ModuleBody → Except Failure String
  | .scripted script => .ok script.name
  | .parsed m _ => (metadata.get m).content.moduleName

/-- The name of a module in a world. -/
def moduleName (w : World) (m : Ref .module) : Except Failure String :=
  nameOf w.metadata (w.modules.get m).body

/-- Asking a module for its name changes nothing. -/
lemma runs_name (w : World) (m : Ref .module) : (Modules.name m).Runs w (moduleName w m) w := by
  refine .bind (runs_managedModule m w) ?_
  cases body : (w.modules.get m).body with
  | scripted script =>
    rw [moduleName, body]
    exact runs_pure _ w
  | parsed md lookup =>
    rw [moduleName, body]
    exact .bind (.bind (runs_get w) (runs_pure _ w)) (runs_ofExcept _ w)

/-- The world in which the type index of a module has been switched on. -/
def indexed (w : World) (m : Ref .module) : World :=
  match (w.modules.get m).body with
  | .scripted _ => w.called (.lookupSwitched true)
  | .parsed md lookup =>
    w.changedModule m fun x => { x with body := .parsed md (lookup.enable true) }

/-- Switching the type index of a module on succeeds. -/
lemma runs_switchLookup (w : World) (m : Ref .module) :
    (Modules.switchLookup m true).Runs w (.ok ()) (indexed w m) := by
  refine .bind (runs_managedModule m w) ?_
  cases body : (w.modules.get m).body with
  | scripted script =>
    rw [indexed, body]
    exact runs_emit _ w
  | parsed md lookup =>
    rw [indexed, body]
    exact runs_changeModule _ _ w

/-- Switching the type index keeps what does not hang on the body of a module. -/
lemma indexed_get {α : Type} {w : World} {m : Ref .module} (p : ManagedModule → α)
    (same : ∀ x md lookup, x.body = .parsed md lookup →
      p { x with body := .parsed md (lookup.enable true) } = p x) (s : Ref .module) :
    p ((indexed w m).modules.get s) = p (w.modules.get s) := by
  rw [indexed]
  split
  · rfl
  · rename_i md lookup body
    exact Arena.get_change_same p (same _ md lookup body) s

/-- Switching a type index keeps the names of modules. -/
lemma moduleName_indexed (w : World) (m s : Ref .module) :
    moduleName (indexed w m) s = moduleName w s := by
  have metadata : (indexed w m).metadata = w.metadata := by
    rw [indexed]
    split <;> rfl
  rw [moduleName, moduleName, metadata]
  apply indexed_get (fun x => nameOf w.metadata x.body)
  intro x md lookup body
  rw [body]
  rfl

/-- Switching a type index keeps the locations of modules. -/
lemma locationOf_indexed (w : World) (m s : Ref .module) :
    locationOf (indexed w m) s = locationOf w s :=
  indexed_get (fun x => x.location.getD "") (fun _ _ _ _ => rfl) s

/-- The file of a module with a name. -/
def fileOf (w : World) (m : Ref .module) (key : Option FileKey) (name : String) : LoadedFile where
  backing := .module m
  path := locationOf w m
  explicitKey := key
  shortName := shortName (locationOf w m) name

/-- The world in which a module has become a file, before the symbol step. -/
def wrapped (w : World) (m : Ref .module) (key : Option FileKey) (name : String) : World :=
  (indexed w m).withFile (fileOf w m key name)

/-- The ways in which a module becomes a file. -/
inductive Wraps (extension : Document.Value) (m : Ref .module) (symbols : Bool)
    (key : Option FileKey) (w : World) : Except Failure (Ref .file) → World → Prop where
  | nameless {f} :
    moduleName w m = .error f →
    Wraps extension m symbols key w (.error f) (indexed w m)
  | bare {name} :
    moduleName w m = .ok name →
    symbols = false →
    Wraps extension m symbols key w (.ok w.files.next) (wrapped w m key name)
  | searched {name v} :
    moduleName w m = .ok name →
    symbols = true →
    Attaches extension m (wrapped w m key name) (.ok ()) v →
    Wraps extension m symbols key w (.ok w.files.next) v
  | stopped {name f v} :
    moduleName w m = .ok name →
    symbols = true →
    Attaches extension m (wrapped w m key name) (.error f) v →
    Wraps extension m symbols key w (.error f) v

/-- A module that cannot tell its name makes no file. -/
lemma runs_ofModule_nameless {w : World} {m : Ref .module} {f} (key : Option FileKey)
    (unknown : moduleName w m = .error f) :
    (Files.ofModule m key true).Runs w (.error f) (indexed w m) := by
  refine .bind (runs_switchLookup w m) (.bind (runs_managedModule m _) (.bind_error ?_))
  have run := runs_name (indexed w m) m
  rw [moduleName_indexed, unknown] at run
  exact run

/-- A module with a name makes a file. -/
lemma runs_ofModule {w : World} {m : Ref .module} {name} (key : Option FileKey)
    (known : moduleName w m = .ok name) :
    (Files.ofModule m key true).Runs w (.ok w.files.next) (wrapped w m key name) := by
  -- The name is asked for when the type index is on already, which does not change it.
  have run := runs_name (indexed w m) m
  rw [moduleName_indexed, known] at run
  have files : (indexed w m).files = w.files := by
    rw [indexed]
    split <;> rfl
  have made := runs_addFile (fileOf w m key name) (indexed w m)
  rw [files] at made
  refine .bind (runs_switchLookup w m) (.bind (runs_managedModule m _) (.bind run ?_))
  have location := locationOf_indexed w m m
  rw [locationOf] at location
  rw [location]
  exact made

/-- A module becomes a file in one of the ways that are listed. -/
lemma exists_wraps (l : Loader) (w : World) (m : Ref .module) (symbols : Bool)
    (key : Option FileKey) :
    ∃ r v, (wrapModule l m symbols key).Runs w r v ∧
      Wraps l.symbolExtension m symbols key w r v := by
  cases known : moduleName w m with
  | error f => exact ⟨_, _, .bind_error (runs_ofModule_nameless key known), .nameless known⟩
  | ok name =>
    cases symbols with
    | false => exact ⟨_, _, .bind (runs_ofModule key known) (runs_pure _ _), .bare known rfl⟩
    | true =>
      obtain ⟨r, v, run, att⟩ := exists_attaches l (wrapped w m key name) m
      cases r with
      | error f =>
        exact ⟨_, _, .bind (runs_ofModule key known) (.bind_error run), .stopped known rfl att⟩
      | ok _ =>
        exact ⟨_, _, .bind (runs_ofModule key known) (.bind run (runs_pure _ _)),
          .searched known rfl att⟩

/-- Switching the type index changes the body of its module, over the same metadata. -/
lemma indexed_normal (w : World) (m : Ref .module) :
    ∃ trace body, body.metadata? = (w.modules.get m).body.metadata? ∧ indexed w m = { w with
      trace := trace
      modules := w.modules.change m fun x => { x with body := body } } := by
  rw [indexed]
  split
  · refine ⟨(w.called (.lookupSwitched true)).trace, (w.modules.get m).body, rfl, ?_⟩
    rw [Arena.change_same rfl]
    rfl
  · rename_i md lookup body
    exact ⟨w.trace, .parsed md (lookup.enable true), by rw [body]; rfl, rfl⟩

/-- A module that becomes a file changes without giving up what it owns, and the file stands on it;
besides, there are calls and notices. -/
lemma Wraps.normal {extension m symbols key w f v}
    (wrs : Wraps extension m symbols key w (.ok f) v) :
    ∃ name trace log g, f = w.files.next ∧
      (g (w.modules.get m)).custody = (w.modules.get m).custody ∧
      v = { w with
        trace := trace
        log := log
        modules := w.modules.change m g
        files := w.files.add (fileOf w m key name) } := by
  obtain ⟨trace, body, same, index⟩ := indexed_normal w m
  have custody (symbols) : ManagedModule.custody
      { w.modules.get m with body := body, symbols := symbols } = (w.modules.get m).custody := by
    rw [ManagedModule.custody, ManagedModule.custody, same]
  cases wrs with
  | @bare name =>
    refine ⟨name, trace, w.log, fun x => { x with body := body }, rfl, custody _, ?_⟩
    rw [wrapped, index]
    rfl
  | @searched name _ known on att =>
    -- The symbol step changes the module for a second time.
    obtain ⟨log, symbols, rfl⟩ := att.normal
    refine ⟨name, trace, log, fun x => { x with body := body, symbols := symbols }, rfl,
      custody _, ?_⟩
    rw [wrapped, index]
    simp only [World.withFile, Arena.change_change]
    rfl

/-- The world in which a module that a caller has parsed has its fresh context. -/
def adopted (w : World) (m : Ref .module) (resolver : Option (Ref .resolver)) : World :=
  (w.withContext (.around resolver)).changedModule m
    fun x => { x with context := some w.contexts.next }

/-- A fresh context keeps what does not hang on the context of a module. -/
lemma adopted_get {α : Type} {w : World} {m : Ref .module} {resolver} (p : ManagedModule → α)
    (same : ∀ x context, p { x with context := context } = p x) (s : Ref .module) :
    p ((adopted w m resolver).modules.get s) = p (w.modules.get s) :=
  Arena.get_change_same p (same _ _) s

/-- A module that a caller has parsed becomes a file in one of the ways that are listed. -/
lemma exists_fromModule (l : Loader) (w : World) (m : Ref .module) (symbols : Bool)
    (resolver : Option (Ref .resolver)) (key : Option FileKey) :
    ∃ r v, (fromModule l m symbols resolver key).Runs w r v ∧
      Wraps l.symbolExtension m symbols key (adopted w m resolver) r v := by
  obtain ⟨r, v, run, wrs⟩ := exists_wraps l (adopted w m resolver) m symbols key
  exact ⟨r, v, .bind (runs_addContext _ w) (.bind (runs_changeModule _ _ _) run), wrs⟩

/-! ## Files of paths -/

section Opened

variable {w : World} {path : Path} {mapped : Bool} {content : Bytes} {directories : DirectoryTable}

/-- The image that opening a path has made. -/
lemma opened_get_image :
    (opened w path mapped content directories).images.get w.images.next
      = imageIn w path mapped content directories := by
  have images : (viewed w path mapped content).images = w.images := by
    cases mapped <;> rfl
  rw [opened, ← images]
  exact Arena.get_add_next _ _

/-- The bytes of an image that has been opened are those of its file. -/
lemma runs_content_opened {v : World}
    (images : v.images = (opened w path mapped content directories).images)
    (mappings : v.mappings = (opened w path mapped content directories).mappings) :
    (Images.content w.images.next).Runs v (.ok content) v := by
  refine .bind (runs_image _ v) ?_
  rw [images, opened_get_image]
  cases mapped with
  | false => exact runs_pure content v
  | true =>
    refine .bind (runs_get v) ?_
    rw [mappings]
    have map : (opened w path true content directories).mappings.get w.mappings.next
        = { content := content, file := w.disk.placeOf? path } := Arena.get_add_next _ _
    rw [map]
    exact runs_pure content v

/-- The runtime directory of an image that has been opened decides whether it is managed. -/
lemma runs_isManaged_opened (w : World) (path : Path) (mapped : Bool) (content : Bytes)
    (directories : DirectoryTable) :
    (Images.isManaged w.images.next).Runs (opened w path mapped content directories)
      (.ok directories.runtime.isManaged) (opened w path mapped content directories) := by
  have entry : Images.entry directories runtimeDirectoryIndex = .ok directories.runtime := rfl
  refine .bind (.bind (runs_image _ _) ?_) (runs_pure _ _)
  rw [opened_get_image]
  have run := runs_ofExcept (Images.entry directories runtimeDirectoryIndex)
    (opened w path mapped content directories)
  rw [entry] at run
  exact run

end Opened

/-- The file of a path that is no image. -/
def pathFile (text : String) (key : Option FileKey) : LoadedFile where
  path := text
  explicitKey := key
  shortName := shortName text ""

/-- The file of an image that a path has been opened as. -/
def imageFile (text : String) (image : Ref .image) (key : Option FileKey) : LoadedFile where
  backing := .image image
  path := Path.normalize text
  explicitKey := key
  shortName := shortName (Path.normalize text) ""

/-- The world in which the image of a path and a context for its module stand. -/
def prepared (w : World) (text : String) (mapped : Bool) (content : Bytes)
    (directories : DirectoryTable) (resolver : Option (Ref .resolver)) : World :=
  (opened w (.ofString text) mapped content directories).withContext (.around resolver)

/-- The ways in which a loader with the standard parsers loads a path. -/
inductive Loads (extension : Document.Value) (text : String) (mapped symbols : Bool)
    (resolver : Option (Ref .resolver)) (key : Option FileKey) (w : World) :
    Except Failure (Ref .file) → World → Prop where
  | unrecognized {refusal v} :
    Opens (.ofString text) mapped w (.error refusal) v →
    Loads extension text mapped symbols resolver key w (.ok v.files.next)
      ((v.noted (text ++ ": unrecognized (" ++ refusal.text ++ ")")).withFile (pathFile text key))
  | native {content directories} :
    Recognized w (.ofString text) mapped content directories →
    directories.runtime.isManaged = false →
    Loads extension text mapped symbols resolver key w (.ok w.files.next)
      (((opened w (.ofString text) mapped content directories).noted
        (text ++ ": native image")).withFile (imageFile text w.images.next key))
  | unreadable {content directories refusal v} :
    Recognized w (.ofString text) mapped content directories →
    directories.runtime.isManaged = true →
    Parses w.images.next (some w.contexts.next) content
      (prepared w text mapped content directories resolver) (.error refusal) v →
    Loads extension text mapped symbols resolver key w (.ok v.files.next)
      ((v.noted (text ++ ": CLR header present but metadata unreadable (" ++ refusal.text ++ ")"))
        |>.withFile (imageFile text w.images.next key))
  | module {content directories m name v r u} :
    Recognized w (.ofString text) mapped content directories →
    directories.runtime.isManaged = true →
    Parses w.images.next (some w.contexts.next) content
      (prepared w text mapped content directories resolver) (.ok m) v →
    moduleName v m = .ok name →
    Wraps extension m symbols key (v.noted (text ++ ": managed module " ++ Text.quoted name)) r u →
    Loads extension text mapped symbols resolver key w r u

/-- A path that is not opened becomes a file with nothing but its path. -/
lemma runs_unrecognized (text : String) (key : Option FileKey) (w : World) :
    (unrecognized (.path text) key).Runs w (.ok w.files.next) (w.withFile (pathFile text key)) :=
  .bind (runs_ofExcept _ w) (.bind (runs_pure _ w) (runs_addFile _ w))

/-- An image that a path has been opened as becomes a file. -/
lemma runs_ofImage {w v : World} {text mapped content directories} (key : Option FileKey)
    (image : v.images.get w.images.next
      = imageIn w (.ofString text) mapped content directories) :
    (Files.ofImage w.images.next key true).Runs v (.ok v.files.next)
      (v.withFile (imageFile text w.images.next key)) := by
  refine .bind (runs_image _ v) ?_
  rw [image]
  exact .bind (runs_pure _ v) (runs_addFile _ v)

/-- A module over metadata with tables goes by the name in them. -/
lemma moduleName_over {w : World} {o : OpenMetadata} {t : Tables} (location : Option String)
    (image : Option (Ref .image)) (context : Option (Ref .context))
    (content : o.content = .tables t) :
    moduleName ((w.withMetadata o).withModule
      (moduleOver w.metadata.next location image context)) w.modules.next = .ok t.moduleName := by
  have made : ((w.withMetadata o).withModule
      (moduleOver w.metadata.next location image context)).modules.get w.modules.next
        = moduleOver w.metadata.next location image context := World.get_withModule _ _
  have kept : ((w.withMetadata o).withModule
      (moduleOver w.metadata.next location image context)).metadata.get w.metadata.next
        = o := Arena.get_add_next _ _
  rw [moduleName, made]
  change ((World.metadata _).get w.metadata.next).content.moduleName = _
  rw [kept, content]
  rfl

/-- A parsed module has a name. -/
lemma exists_moduleName {image context content w m v}
    (prs : Parses image context content w (.ok m) v) : ∃ name, moduleName v m = .ok name := by
  cases prs with
  | @complete md answer full =>
    obtain ⟨t, rfl, _⟩ := missing?_eq_none.mp full
    exact ⟨t.moduleName, moduleName_over (w := readCall w content) _ _ _ rfl⟩

section Classified

variable {l : Loader} {w : World} {text : String} {mapped : Bool} {content : Bytes}
  {directories : DirectoryTable} {symbols : Bool} {resolver : Option (Ref .resolver)}
  {key : Option FileKey}

/-- An opened image gets a fresh context for its module. -/
lemma runs_freshContext_opened :
    (freshContext resolver).Runs (opened w (.ofString text) mapped content directories)
      (.ok w.contexts.next) (prepared w text mapped content directories resolver) := by
  have context := runs_addContext (.around resolver)
    (opened w (.ofString text) mapped content directories)
  have contexts : (opened w (.ofString text) mapped content directories).contexts = w.contexts := by
    cases mapped <;> rfl
  rw [contexts] at context
  exact context

/-- The standard parser for modules parses an image. -/
lemma runs_parseModule {image context r} {v u : World} (standard : l.modules = .standard)
    (prs : (parseImage image (some context)).Runs v r u) :
    (parseModule l image context).Runs v r u := by
  rw [parseModule, standard]
  exact prs

/-- An image without a runtime header becomes a file over itself. -/
lemma runs_classify_native (plain : directories.runtime.isManaged = false) :
    (classify l text w.images.next symbols resolver key).Runs
      (opened w (.ofString text) mapped content directories) (.ok w.files.next)
      (((opened w (.ofString text) mapped content directories).noted
        (text ++ ": native image")).withFile (imageFile text w.images.next key)) := by
  have managed := runs_isManaged_opened w (.ofString text) mapped content directories
  rw [plain] at managed
  have made := runs_ofImage (v := (opened w (.ofString text) mapped content directories).noted
    (text ++ ": native image")) key opened_get_image
  have files : (opened w (.ofString text) mapped content directories).files = w.files := by
    cases mapped <;> rfl
  rw [← files]
  exact .bind managed (.bind (runs_debug _ _) made)

/-- An image with a runtime header and no module behind it becomes a file over itself. -/
lemma runs_classify_unreadable {refusal v} (standard : l.modules = .standard)
    (managed : directories.runtime.isManaged = true)
    (prs : (parseImage w.images.next (some w.contexts.next)).Runs
      (prepared w text mapped content directories resolver) (.ok (.error refusal)) v)
    (images : v.images = (opened w (.ofString text) mapped content directories).images) :
    (classify l text w.images.next symbols resolver key).Runs
      (opened w (.ofString text) mapped content directories) (.ok v.files.next)
      ((v.noted (text ++ ": CLR header present but metadata unreadable (" ++ refusal.text ++ ")"))
        |>.withFile (imageFile text w.images.next key)) := by
  have sign := runs_isManaged_opened w (.ofString text) mapped content directories
  rw [managed] at sign
  have image : v.images.get w.images.next = imageIn w (.ofString text) mapped content directories :=
    images ▸ opened_get_image
  have parse := runs_parseModule standard prs
  exact .bind sign (.bind runs_freshContext_opened
    (.bind parse (.bind (runs_debug _ _) (runs_ofImage key image))))

/-- An image with a module behind it becomes what wrapping the module makes. -/
lemma runs_classify_module {m name v r u} (standard : l.modules = .standard)
    (managed : directories.runtime.isManaged = true)
    (prs : (parseImage w.images.next (some w.contexts.next)).Runs
      (prepared w text mapped content directories resolver) (.ok (.ok m)) v)
    (known : moduleName v m = .ok name)
    (wrap : (wrapModule l m symbols key).Runs
      (v.noted (text ++ ": managed module " ++ Text.quoted name)) r u) :
    (classify l text w.images.next symbols resolver key).Runs
      (opened w (.ofString text) mapped content directories) r u := by
  have sign := runs_isManaged_opened w (.ofString text) mapped content directories
  rw [managed] at sign
  have named := runs_name v m
  rw [known] at named
  have parse := runs_parseModule standard prs
  exact .bind sign (.bind runs_freshContext_opened
    (.bind parse (.bind named (.bind (runs_debug _ _) wrap))))

end Classified

/-- A loader with the standard parsers loads a path in one of the ways that are listed. -/
lemma exists_loads {l : Loader} (w : World) (text : String) (mapped : Document.Value)
    (symbols : Bool) (resolver : Option (Ref .resolver)) (key : Option FileKey)
    (images : l.images = .standard) (modules : l.modules = .standard) :
    ∃ r v, (fromTarget l (.path text) mapped symbols resolver key).Runs w r v ∧
      Loads l.symbolExtension text mapped.isTruthy symbols resolver key w r v := by
  obtain ⟨result, v, run, ops⟩ := exists_opens w text mapped.isTruthy
  have open_ : (openImage l (.path text) mapped).Runs w (.ok result) v := by
    rw [openImage, images]
    exact run
  cases result with
  | error refusal =>
    exact ⟨_, _, .bind open_ (.bind (runs_debug _ _) (runs_unrecognized text key _)),
      .unrecognized ops⟩
  | ok image =>
    cases ops with
    | @found content directories recog =>
      cases managed : directories.runtime.isManaged with
      | false => exact ⟨_, _, .bind open_ (runs_classify_native managed), .native recog managed⟩
      | true =>
        obtain ⟨parsed, u, parse, prs⟩ := exists_parses
          (w := prepared w text mapped.isTruthy content directories resolver)
          (some w.contexts.next) (runs_content_opened rfl rfl)
        cases parsed with
        | error refusal =>
          exact ⟨_, _, .bind open_ (runs_classify_unreadable modules managed parse prs.images),
            .unreadable recog managed prs⟩
        | ok m =>
          obtain ⟨name, known⟩ := exists_moduleName prs
          obtain ⟨r, x, wrap, wrs⟩ := exists_wraps l
            (u.noted (text ++ ": managed module " ++ Text.quoted name)) m symbols key
          exact ⟨r, x, .bind open_ (runs_classify_module modules managed parse known wrap),
            .module recog managed prs known wrs⟩

/-- Whatever loading a path has come to is in the list. -/
lemma fromTarget_loads {l : Loader} {w : World} {text mapped symbols resolver key r v}
    (images : l.images = .standard) (modules : l.modules = .standard)
    (run : (fromTarget l (.path text) mapped symbols resolver key).Runs w r v) :
    Loads l.symbolExtension text mapped.isTruthy symbols resolver key w r v := by
  obtain ⟨r', v', run', loads⟩ := exists_loads w text mapped symbols resolver key images modules
  obtain ⟨rfl, rfl⟩ := run.unique run'
  exact loads

end Loading

end PEInspect
