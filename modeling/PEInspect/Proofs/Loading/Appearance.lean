import PEInspect.Proofs.Loading.Modes
import PEInspect.Proofs.Loading.Totality

/-!
# The appearance of a loaded file

What a loaded file shows is settled by what lies outside of the library, the disk and the answers of
the two parsers, together with the arguments of the call. `foretold` tells it from these alone,
without opening or making anything, and loading comes to just that, from any world and whatever has
been loaded before (`exists_foretold`). A file remembers the path under which it was opened in normal
form, so to load the path that it remembers comes to the same appearance (`reload_same`).
-/

namespace PEInspect

/-- What loading depends on outside of the library: the disk, and what the two parsers answer. -/
structure Outside where
  disk : Disk
  headers : HeaderSource → HeaderOutcome
  metadata : Bytes → MetadataOutcome

def World.outside (w : World) : Outside :=
  ⟨w.disk, w.headerParser.parse, w.metadataParser.parse⟩

namespace Loading

open PEInspect.Action World Opening Parsing SymbolFormat

/-! ## What files show -/

/-- What a loaded file shows. Its facts may be out of reach, if the version of its assembly is no
number. -/
structure Appearance where
  kind : String
  path : String
  key : FileKey
  shortName : String
  info : Except Failure Files.Info
  symbols : Option SymbolData

/-- The symbols of the module behind a backing. -/
def symbolsOf (w : World) (backing : Backing) : Option SymbolData :=
  (Files.moduleOf? backing).bind fun m => (w.modules.get m).symbols

/-- What a file shows in a world. -/
def appearance (w : World) (f : Ref .file) : Appearance where
  kind := (w.files.get f).backing.kind
  path := (w.files.get f).path
  key := (w.files.get f).key
  shortName := (w.files.get f).shortName
  info := ((Files.info f).outcome w).1
  symbols := symbolsOf w (w.files.get f).backing

/-- A file shows its path. -/
lemma appearance_path (w : World) (f : Ref .file) :
    (appearance w f).path = (w.files.get f).path :=
  rfl

/-- The facts about a file that has just been loaded. -/
def freshInfo (kind path name : String) (module : Option String) (assembly : Option Assembly)
    (hasSymbols : Bool) (size : Nat) : Files.Info where
  path := path
  name := name
  kind := kind
  autoLoaded := false
  persistable := true
  module := module
  assembly := assembly.map Assembly.fullName
  hasSymbols := hasSymbols
  imageSize := size

/-- What a file without a module shows. -/
def Appearance.plain (kind path : String) (key : Option FileKey) (size : Nat) : Appearance where
  kind := kind
  path := path
  key := key.getD (.filename path)
  shortName := PEInspect.shortName path ""
  info := .ok (freshInfo kind path (PEInspect.shortName path "") none none false size)
  symbols := none

/-- What a file with a module shows. -/
def Appearance.managed (path : String) (key : Option FileKey) (size : Nat) (t : Tables)
    (symbols : Option SymbolData) : Appearance where
  kind := "MODULE"
  path := path
  key := key.getD (.filename path)
  shortName := PEInspect.shortName path t.moduleName
  info := t.assembly.map fun assembly =>
    freshInfo "MODULE" path (PEInspect.shortName path t.moduleName) (some t.moduleName) assembly
      symbols.isSome size
  symbols := symbols

/-! ## Telling it in advance -/

/-- The content and the directories of the image at a path, if there is one. -/
def imageAt? (o : Outside) (path : Path) (mapped : Bool) : Option (Bytes × DirectoryTable) :=
  match o.disk.read path with
  | .error _ => none
  | .ok content =>
    if looksLikeImage content then
      match o.headers (sourceOf path mapped content) with
      | .found directories => some (content, directories)
      | _ => none
    else none

/-- The tables of the module in an image, if there is one. -/
def tablesIn? (o : Outside) (content : Bytes) (directories : DirectoryTable) : Option Tables :=
  if directories.runtime.isManaged then
    match o.metadata content with
    | .opened (.tables t) => if t.modules.rows.isEmpty then none else some t
    | _ => none
  else none

/-- The symbols in a content, if its format is known. -/
def symbolsIn? (path : Path) (content : Bytes) : Option SymbolData :=
  (SymbolFormat.detect? content).map fun format => ⟨path, format, content⟩

/-- The symbols beside a location, if the disk answers for them, and if there are any that can be
read. -/
def symbolsBeside (disk : Disk) (extension : Document.Value) (location : String) :
    Except Failure (Option SymbolData) := do
  match ← Symbols.candidateFor location extension with
  | none => return none
  | some c =>
    if ← disk.hasFile c then return (disk.read c).toOption.bind (symbolsIn? c) else return none

/-- What the file of a module with some tables will show. -/
def foretoldModule (disk : Disk) (extension : Document.Value) (path : String) (symbols : Bool)
    (key : Option FileKey) (size : Nat) (t : Tables) : Except Failure Appearance :=
  (if symbols then symbolsBeside disk extension path else .ok none).map
    (Appearance.managed path key size t)

/-- What the file of a path will show. -/
def foretold (o : Outside) (extension : Document.Value) (text : String) (mapped symbols : Bool)
    (key : Option FileKey) : Except Failure Appearance :=
  match imageAt? o (.ofString text) mapped with
  | none => .ok (.plain "UNRECOGNIZED" text key 0)
  | some (content, directories) =>
    match tablesIn? o content directories with
    | none => .ok (.plain "IMAGE" (Path.normalize text) key content.length)
    | some t =>
      foretoldModule o.disk extension (Path.normalize text) symbols key content.length t

section Foretold

variable {o : Outside} {extension : Document.Value} {text : String} {mapped symbols : Bool}
  {key : Option FileKey} {content : Bytes} {directories : DirectoryTable}

/-- A path without an image is foretold to be unrecognized. -/
lemma foretold_unrecognized (none_ : imageAt? o (.ofString text) mapped = none) :
    foretold o extension text mapped symbols key = .ok (.plain "UNRECOGNIZED" text key 0) := by
  rw [foretold, none_]

/-- A path with an image and without tables is foretold to be an image. -/
lemma foretold_image (image : imageAt? o (.ofString text) mapped = some (content, directories))
    (none_ : tablesIn? o content directories = none) :
    foretold o extension text mapped symbols key =
      .ok (.plain "IMAGE" (Path.normalize text) key content.length) := by
  rw [foretold, image]
  dsimp only
  rw [none_]

/-- A path with an image and with tables is foretold to be a module. -/
lemma foretold_module {t : Tables}
    (image : imageAt? o (.ofString text) mapped = some (content, directories))
    (tables : tablesIn? o content directories = some t) :
    foretold o extension text mapped symbols key =
      foretoldModule o.disk extension (Path.normalize text) symbols key content.length t := by
  rw [foretold, image]
  dsimp only
  rw [tables]

/-- What is foretold of a module is managed. -/
lemma managed_of_foretoldModule {disk : Disk} {extension path symbols key size t a}
    (told : foretoldModule disk extension path symbols key size t = .ok a) :
    ∃ found, a = .managed path key size t found := by
  rw [foretoldModule] at told
  cases data : (if symbols then symbolsBeside disk extension path else .ok none) with
  | error failure =>
    rw [data] at told
    cases told
  | ok found =>
    rw [data] at told
    exact ⟨found, (Except.ok.inj told).symm⟩

/-- What can be foretold of a path. -/
lemma foretold_cases {a} (told : foretold o extension text mapped symbols key = .ok a) :
    a = .plain "UNRECOGNIZED" text key 0 ∨
      (∃ size, a = .plain "IMAGE" (Path.normalize text) key size) ∨
      ∃ size t found, a = .managed (Path.normalize text) key size t found := by
  cases image : imageAt? o (.ofString text) mapped with
  | none =>
    rw [foretold_unrecognized image] at told
    exact .inl (Except.ok.inj told).symm
  | some there =>
    obtain ⟨content, directories⟩ := there
    cases tables : tablesIn? o content directories with
    | none =>
      rw [foretold_image image tables] at told
      exact .inr (.inl ⟨_, (Except.ok.inj told).symm⟩)
    | some t =>
      rw [foretold_module image tables] at told
      obtain ⟨found, rfl⟩ := managed_of_foretoldModule told
      exact .inr (.inr ⟨_, _, found, rfl⟩)

end Foretold

/-! ## The stages of loading -/

section Outside

variable {w v : World} {path : Path} {mapped : Bool} {content : Bytes}

/-- Viewing a file leaves the outside as it is. -/
lemma outside_viewed (w : World) (path : Path) (mapped : Bool) (content : Bytes) :
    (viewed w path mapped content).outside = w.outside := by
  cases mapped <;> rfl

/-- Opening an image leaves the outside as it is. -/
lemma outside_opened (w : World) (path : Path) (mapped : Bool) (content : Bytes)
    (directories : DirectoryTable) :
    (opened w path mapped content directories).outside = w.outside :=
  outside_viewed w path mapped content

/-- A context for the module of an image leaves the outside as it is. -/
lemma outside_prepared (w : World) (text : String) (mapped : Bool) (content : Bytes)
    (directories : DirectoryTable) (resolver : Option (Ref .resolver)) :
    (prepared w text mapped content directories resolver).outside = w.outside :=
  outside_opened w (.ofString text) mapped content directories

/-- A path that is refused leaves the outside as it is. -/
lemma outside_of_opens {refusal} (ops : Opens path mapped w (.error refusal) v) :
    v.outside = w.outside := by
  cases ops with
  | unreadable | empty => rfl
  | unsigned | raised | rejected => exact outside_viewed w path mapped _

/-- Parsing a module leaves the outside as it is. -/
lemma outside_of_parses {image context r} (prs : Parses image context content w r v) :
    v.outside = w.outside := by
  obtain ⟨_, _, _, rfl⟩ := prs.normal
  rfl

/-- Loading leaves what lies outside of the library as it was. -/
lemma Loads.outside {extension text symbols resolver key f}
    (loads : Loads extension text mapped symbols resolver key w (.ok f) v) :
    v.outside = w.outside := by
  cases loads with
  | unrecognized ops =>
    have same := outside_of_opens ops
    exact same
  | @native content directories =>
    exact outside_opened w (.ofString text) mapped content directories
  | unreadable recog managed prs =>
    have same := (outside_of_parses prs).trans (outside_prepared w text mapped _ _ _)
    exact same
  | module recog managed prs known wrs =>
    obtain ⟨_, _, _, _, _, _, rfl⟩ := wrs.normal
    have same := (outside_of_parses prs).trans (outside_prepared w text mapped _ _ _)
    exact same

end Outside

section Stages

variable {w v : World} {path : Path} {mapped : Bool} {content : Bytes}
  {directories : DirectoryTable}

/-- A path that is recognized has an image. -/
lemma imageAt?_of_recognized (recog : Recognized w path mapped content directories) :
    imageAt? w.outside path mapped = some (content, directories) := by
  obtain ⟨rd, signed, answer⟩ := recog
  have rd' : w.outside.disk.read path = .ok content := rd
  have answer' : w.outside.headers (sourceOf path mapped content) = .found directories := answer
  simp only [imageAt?, rd', signed, answer', if_true]

/-- A path that has an image is recognized. -/
lemma recognized_of_imageAt? (there : imageAt? w.outside path mapped = some (content, directories)) :
    Recognized w path mapped content directories := by
  rw [imageAt?] at there
  split at there
  · cases there
  · rename_i rd
    split at there
    · rename_i signed
      split at there
      · rename_i answer
        cases there
        exact ⟨rd, signed, answer⟩
      · cases there
    · cases there

/-- A path that is not opened has no image. -/
lemma imageAt?_of_refused {refusal} (ops : Opens path mapped w (.error refusal) v) :
    imageAt? w.outside path mapped = none := by
  cases there : imageAt? w.outside path mapped with
  | none => rfl
  | some found =>
    exact absurd (noImage_of_opens ops) (not_noImage_of_recognized (recognized_of_imageAt? there))

/-- An image without a runtime header has no tables. -/
lemma tablesIn?_of_native (plain : directories.runtime.isManaged = false) (o : Outside) :
    tablesIn? o content directories = none := by
  rw [tablesIn?, plain]
  rfl

/-- An image of which no module is parsed has no tables of a module. -/
lemma tablesIn?_of_refused {image context refusal} {o : Outside}
    (metadata : o.metadata = w.metadataParser.parse)
    (prs : Parses image context content w (.error refusal) v) :
    tablesIn? o content directories = none := by
  rw [tablesIn?, metadata]
  split
  · cases prs with
    | raised answer => rw [answer]
    | @incomplete m _ answer lack =>
      rw [answer]
      cases m with
      | tables t =>
        cases rows : t.modules.rows with
        | nil => simp [rows]
        | cons row rest => simp [missing?, rows] at lack
      | _ => rfl
  · rfl

/-- An image of which a module is parsed has the tables on which the module stands. -/
lemma tablesIn?_of_parsed {image context m} {o : Outside}
    (metadata : o.metadata = w.metadataParser.parse) (managed : directories.runtime.isManaged = true)
    (prs : Parses image context content w (.ok m) v) :
    ∃ t, tablesIn? o content directories = some t ∧
      (v.metadata.get w.metadata.next).content = .tables t := by
  cases prs with
  | complete answer full =>
    obtain ⟨t, rfl, rows⟩ := missing?_eq_none.mp full
    refine ⟨t, ?_, ?_⟩
    · simp only [tablesIn?, managed, metadata, answer, if_true]
      simp [rows]
    · exact congrArg OpenMetadata.content (Arena.get_add_next _ _)

end Stages

/-- The symbol step leaves the symbols beside the location, or stops where the disk does. -/
lemma Attaches.symbols {extension m w r v} (att : Attaches extension m w r v)
    (there : m.index < w.modules.cells.length) (wants : Wants w m) :
    symbolsBeside w.disk extension (locationOf w m) =
      r.map fun _ => (v.modules.get m).symbols := by
  have none_ : (w.modules.get m).symbols = none := by simpa using wants.2
  cases att with
  | settled idle => exact absurd wants idle
  | malformed _ cand =>
    rw [symbolsBeside, cand]
    rfl
  | nameless _ cand =>
    rw [symbolsBeside, cand]
    exact congrArg Except.ok none_.symm
  | unanswered _ cand stop =>
    rw [symbolsBeside, cand]
    simp only [bind, Except.bind, stop]
    rfl
  | absent _ cand gone =>
    rw [symbolsBeside, cand]
    simp only [bind, Except.bind, gone]
    exact congrArg Except.ok none_.symm
  | unfit _ cand rd unknown =>
    rw [symbolsBeside, cand]
    simp only [bind, Except.bind, Disk.hasFile_of_read rd, if_true, rd, Except.toOption,
      Option.bind_some, symbolsIn?, unknown, Option.map_none]
    exact congrArg Except.ok none_.symm
  | barred _ cand regular rd =>
    rw [symbolsBeside, cand]
    simp only [bind, Except.bind, regular, if_true, rd, Except.toOption, Option.bind_none]
    exact congrArg Except.ok none_.symm
  | @attached c content format _ cand rd known =>
    rw [symbolsBeside, cand]
    simp only [bind, Except.bind, Disk.hasFile_of_read rd, if_true, rd, Except.toOption,
      Option.bind_some, symbolsIn?, known, Option.map_some]
    have kept := congrArg ManagedModule.symbols (Arena.get_set_self w.modules
      { w.modules.get m with symbols := some ⟨c, format, content⟩ } there)
    exact congrArg Except.ok kept.symm

/-! ## What the files of a path show -/

section Files

variable {v : World} {f : Ref .file} {text : String} {key : Option FileKey}

/-- The facts about a file are collected from what stands behind it. -/
lemma runs_info {x : LoadedFile} {assembly : Option Assembly} {image : Option (Ref .image)}
    {name : Option String} {hasSymbols : Option Bool} {size : Option Nat}
    (file : v.files.get f = x)
    (assembled : (Files.assemblyOf? x.backing).Runs v (.ok assembly) v)
    (imaged : (Files.imageOf? x.backing).Runs v (.ok image) v)
    (named : ((Files.moduleOf? x.backing).mapM Modules.name).Runs v (.ok name) v)
    (marked : ((Files.moduleOf? x.backing).mapM fun m =>
      return (← managedModule m).symbols.isSome).Runs v (.ok hasSymbols) v)
    (sized : (image.mapM Images.size).Runs v (.ok size) v) :
    (Files.info f).Runs v (.ok {
      path := x.path
      name := x.shortName
      kind := x.backing.kind
      autoLoaded := x.autoLoaded
      persistable := x.persistable
      module := name
      assembly := assembly.map Assembly.fullName
      hasSymbols := hasSymbols.getD false
      imageSize := size.getD 0 }) v := by
  subst file
  exact .bind (runs_file f v) (.bind assembled (.bind imaged (.bind named (.bind marked
    (.bind sized (runs_pure _ v))))))

/-- The size of an image is that of its content. -/
lemma runs_mapM_size {i : Ref .image} {content : Bytes}
    (bytes : Images.contentOf v.mappings (v.images.get i) = .ok content) :
    ((some i).mapM Images.size).Runs v (.ok (some content.length)) v := by
  have run := runs_map some (Images.runs_size i v)
  rw [bytes] at run
  exact run

/-- What a file without an image shows. -/
lemma appearance_unrecognized (file : v.files.get f = pathFile text key) :
    appearance v f = .plain "UNRECOGNIZED" text key 0 := by
  have info := runs_info file (runs_pure none v) (runs_pure none v) (runs_pure none v)
    (runs_pure none v) (runs_pure none v)
  rw [appearance, congrArg Prod.fst info, file]
  rfl

/-- What a file over an image shows. -/
lemma appearance_image {i : Ref .image} {content : Bytes} (file : v.files.get f = imageFile text i key)
    (bytes : Images.contentOf v.mappings (v.images.get i) = .ok content) :
    appearance v f = .plain "IMAGE" (Path.normalize text) key content.length := by
  have info := runs_info file (runs_pure none v) (runs_pure (some i) v) (runs_pure none v)
    (runs_pure none v) (runs_mapM_size bytes)
  rw [appearance, congrArg Prod.fst info, file]
  rfl

end Files

/-! ## Parsed modules -/

/-- A module stands at a location, on metadata with some tables and on an image with a content. -/
structure Parsed (w : World) (m : Ref .module) (place : String) (t : Tables) (content : Bytes) :
    Prop where
  there : m.index < w.modules.cells.length
  location : locationOf w m = place
  custody : ∃ i md, (w.modules.get m).custody = (some i, some md) ∧
    (w.metadata.get md).content = .tables t ∧
    Images.contentOf w.mappings (w.images.get i) = .ok content

section Parsed

variable {w v : World} {m : Ref .module} {place : String} {t : Tables} {content : Bytes}

/-- A module over metadata has been parsed. -/
lemma body_of_metadata? {body : ModuleBody} {md} (stands : body.metadata? = some md) :
    ∃ lookup, body = .parsed md lookup := by
  cases body with
  | scripted script => cases stands
  | parsed md' lookup =>
    cases stands
    exact ⟨lookup, rfl⟩

/-- A parsed module goes by the name in its tables. -/
lemma Parsed.moduleName (parsed : Parsed w m place t content) :
    moduleName w m = .ok t.moduleName := by
  obtain ⟨i, md, custody, tables, -⟩ := parsed.custody
  obtain ⟨lookup, body⟩ := body_of_metadata? (congrArg Prod.snd custody)
  rw [Loading.moduleName, body, nameOf, tables]
  rfl

/-- A parsed module is the manifest of the assembly in its tables. -/
lemma Parsed.assemblyIn (parsed : Parsed w m place t content) :
    assemblyIn w m = t.assembly := by
  obtain ⟨i, md, custody, tables, -⟩ := parsed.custody
  obtain ⟨lookup, body⟩ := body_of_metadata? (congrArg Prod.snd custody)
  rw [Loading.assemblyIn, body]
  dsimp only
  rw [tables]
  rfl

/-- A parsed module is still one where what it stands on is the same. -/
lemma Parsed.kept (parsed : Parsed w m place t content)
    (there : m.index < v.modules.cells.length)
    (location : (v.modules.get m).location = (w.modules.get m).location)
    (custody : (v.modules.get m).custody = (w.modules.get m).custody)
    (metadata : v.metadata = w.metadata) (mappings : v.mappings = w.mappings)
    (images : v.images = w.images) : Parsed v m place t content := by
  refine ⟨there, ?_, ?_⟩
  · rw [locationOf, location]
    exact parsed.location
  · rw [custody, metadata, mappings, images]
    exact parsed.custody

/-- A parsed module that becomes a file is still one. -/
lemma Parsed.wrapped (parsed : Parsed w m place t content) (key : Option FileKey) (name : String) :
    Parsed (wrapped w m key name) m place t content := by
  obtain ⟨trace, body, same, index⟩ := indexed_normal w m
  rw [Loading.wrapped, index]
  refine parsed.kept ?_ ?_ ?_ rfl rfl rfl
  · change m.index < (w.modules.change m _).cells.length
    rw [Arena.length_change]
    exact parsed.there
  · exact Arena.get_change_same ManagedModule.location rfl m
  · exact Arena.get_change_same ManagedModule.custody (congrArg (Prod.mk _) same) m

/-- A parsed module that gets symbols is still one. -/
lemma Parsed.attached {extension r} (parsed : Parsed w m place t content)
    (att : Attaches extension m w r v) : Parsed v m place t content := by
  obtain ⟨log, symbols, rfl⟩ := att.normal
  refine parsed.kept ?_ ?_ ?_ rfl rfl rfl
  · change m.index < (w.modules.change m _).cells.length
    rw [Arena.length_change]
    exact parsed.there
  · exact Arena.get_change_same ManagedModule.location rfl m
  · exact Arena.get_change_same ManagedModule.custody rfl m

/-- What the file of a parsed module shows. -/
lemma Parsed.appearance {f : Ref .file} {key : Option FileKey} (parsed : Parsed w m place t content)
    (file : w.files.get f = {
      backing := .module m
      path := place
      explicitKey := key
      shortName := shortName place t.moduleName }) :
    appearance w f = .managed place key content.length t (w.modules.get m).symbols := by
  obtain ⟨i, md, custody, -, bytes⟩ := parsed.custody
  have info : ((Files.info f).outcome w).1 = t.assembly.map fun assembly =>
      freshInfo "MODULE" place (shortName place t.moduleName) (some t.moduleName) assembly
        (w.modules.get m).symbols.isSome content.length := by
    have assembled := runs_assembly m w
    rw [parsed.assemblyIn] at assembled
    cases assembly : t.assembly with
    -- A version that is no number stops the collection before anything else is asked for.
    | error failure =>
      rw [assembly] at assembled
      have run : (Files.info f).Runs w (.error failure) w := by
        refine .bind (runs_file f w) (.bind_error ?_)
        rw [file]
        exact assembled
      exact congrArg Prod.fst run
    | ok found =>
      rw [assembly] at assembled
      have imaged := runs_imageOf?_module m w
      rw [show (w.modules.get m).image = some i from congrArg Prod.fst custody] at imaged
      have named := runs_map some (runs_name w m)
      rw [parsed.moduleName] at named
      have marked : ((some m).mapM fun m => return (← managedModule m).symbols.isSome).Runs w
          (.ok (some (w.modules.get m).symbols.isSome)) w :=
        runs_map some (r := .ok _) (.bind (runs_managedModule m w) rfl)
      exact congrArg Prod.fst (runs_info file assembled imaged named marked (runs_mapM_size bytes))
  rw [Loading.appearance, info, file]
  rfl

end Parsed

/-! ## Loading comes to what is foretold -/

/-- A module that has just been parsed can be searched for the symbols beside it. -/
lemma Parsed.wants {w m place t content} (parsed : Parsed w m place t content)
    (placed : place.isEmpty = false) (bare : (w.modules.get m).symbols = none) : Wants w m := by
  refine ⟨?_, ?_⟩
  · rw [parsed.location]
    exact placed
  · rw [bare]
    rfl

/-- Wrapping a parsed module comes to what is foretold of it. -/
lemma Wraps.foretold {extension m symbols key w r v place t content}
    (wrs : Wraps extension m symbols key w r v) (parsed : Parsed w m place t content)
    (placed : place.isEmpty = false) (bare : (w.modules.get m).symbols = none) :
    foretoldModule w.disk extension place symbols key content.length t =
      r.map (appearance v) := by
  have parsed' := parsed.wrapped key t.moduleName
  have file : (wrapped w m key t.moduleName).files.get w.files.next = fileOf w m key t.moduleName := by
    have same : (indexed w m).files = w.files := by
      obtain ⟨trace, body, -, index⟩ := indexed_normal w m
      rw [index]
    exact World.get_withFile _ same
  rw [fileOf, parsed.location] at file
  have bare' : ((wrapped w m key t.moduleName).modules.get m).symbols = none :=
    (indexed_get ManagedModule.symbols (fun _ _ _ _ => rfl) m).trans bare
  -- The search runs in the world in which the file stands, for the place of the module before that.
  have step {r' v'} (att : Attaches extension m (wrapped w m key t.moduleName) r' v') :
      symbolsBeside w.disk extension place = r'.map fun _ => (v'.modules.get m).symbols := by
    rw [← wrapped_disk, ← parsed'.location]
    exact att.symbols parsed'.there (parsed'.wants placed bare')
  cases wrs with
  | nameless unknown =>
    rw [parsed.moduleName] at unknown
    cases unknown
  | bare known off =>
    cases parsed.moduleName.symm.trans known
    have shown := parsed'.appearance file
    rw [bare'] at shown
    rw [off]
    exact congrArg Except.ok shown.symm
  | searched known on att =>
    cases parsed.moduleName.symm.trans known
    have files : v.files = (wrapped w m key t.moduleName).files := by
      obtain ⟨log, symbols, rfl⟩ := att.normal
      rfl
    rw [← files] at file
    rw [on, foretoldModule, if_pos rfl, step att]
    exact congrArg Except.ok ((parsed'.attached att).appearance file).symm
  | stopped known on att =>
    cases parsed.moduleName.symm.trans known
    rw [on, foretoldModule, if_pos rfl, step att]
    rfl

section Loads

variable {w : World} {text : String} {mapped : Bool} {content : Bytes}
  {directories : DirectoryTable}

/-- The bytes of an image that has been opened are those of its file. -/
lemma contentOf_opened {path : Path} {v : World}
    (images : v.images = (opened w path mapped content directories).images)
    (mappings : v.mappings = (opened w path mapped content directories).mappings) :
    Images.contentOf v.mappings (v.images.get w.images.next) = .ok content :=
  ((Images.runs_content _ v).unique (runs_content_opened images mappings)).1

/-- A module that a loader parses out of an image stands at the path of the image. -/
lemma parsed_of_parses {v : World} {context m resolver}
    (managed : directories.runtime.isManaged = true)
    (prs : Parses w.images.next context content
      (prepared w text mapped content directories resolver) (.ok m) v) :
    ∃ t, tablesIn? w.outside content directories = some t ∧
      Parsed v m (Path.normalize text) t content ∧ (v.modules.get m).symbols = none := by
  have parser : w.outside.metadata = (prepared w text mapped content directories
      resolver).metadataParser.parse := by
    rw [prepared_metadataParser]
    rfl
  obtain ⟨t, tables, stands⟩ := tablesIn?_of_parsed parser managed prs
  have module := prs.module
  have image : (prepared w text mapped content directories resolver).images.get w.images.next
      = imageIn w (.ofString text) mapped content directories := opened_get_image
  rw [image] at module
  refine ⟨t, tables, ⟨?_, ?_, w.images.next, _, ?_, stands, ?_⟩, ?_⟩
  · cases prs
    exact List.length_append ▸ Nat.lt_succ_self _
  · rw [locationOf, module]
    rfl
  · rw [module]
    rfl
  · obtain ⟨_, _, _, rfl⟩ := prs.normal
    exact contentOf_opened rfl rfl
  · rw [module]
    rfl

/-- Loading a path comes to what is foretold of it. -/
lemma Loads.foretold {extension symbols resolver key r v}
    (loads : Loads extension text mapped symbols resolver key w r v) :
    foretold w.outside extension text mapped symbols key = r.map (appearance v) := by
  cases loads with
  | unrecognized ops =>
    rw [foretold_unrecognized (imageAt?_of_refused ops)]
    exact congrArg Except.ok (appearance_unrecognized (World.get_withFile _ rfl)).symm
  | @native content directories recog plain =>
    have files : (opened w (.ofString text) mapped content directories).files = w.files := by
      cases mapped <;> rfl
    rw [foretold_image (imageAt?_of_recognized recog) (tablesIn?_of_native plain _)]
    have file := World.get_withFile
      (v := (opened w (.ofString text) mapped content directories).noted (text ++ ": native image"))
      (imageFile text w.images.next key) files
    exact congrArg Except.ok (appearance_image file (contentOf_opened rfl rfl)).symm
  | @unreadable content directories refusal v recog managed prs =>
    have parser : w.outside.metadata = (prepared w text mapped content directories
        resolver).metadataParser.parse := by
      rw [prepared_metadataParser]
      rfl
    have none_ : tablesIn? w.outside content directories = none := tablesIn?_of_refused parser prs
    rw [foretold_image (imageAt?_of_recognized recog) none_]
    have images : v.images = (opened w (.ofString text) mapped content directories).images :=
      prs.images
    have mappings : v.mappings = (opened w (.ofString text) mapped content directories).mappings := by
      obtain ⟨_, _, _, rfl⟩ := prs.normal
      rfl
    have file := World.get_withFile (w := v) (v := v.noted
      (text ++ ": CLR header present but metadata unreadable (" ++ refusal.text ++ ")"))
      (imageFile text w.images.next key) rfl
    exact congrArg Except.ok (appearance_image file (contentOf_opened images mappings)).symm
  | @module content directories m name u _ _ recog managed prs known wrs =>
    obtain ⟨t, tables, parsed, bare⟩ := parsed_of_parses managed prs
    rw [foretold_module (imageAt?_of_recognized recog) tables]
    have outside : u.outside = w.outside :=
      (outside_of_parses prs).trans (outside_prepared w text mapped content directories _)
    rw [← outside]
    exact wrs.foretold (parsed.kept parsed.there rfl rfl rfl rfl rfl) (Path.isEmpty_toString _) bare

end Loads

/-- Loading a path comes to what is foretold of it, in any world. -/
lemma exists_foretold {l : Loader} (images : l.images = .standard) (modules : l.modules = .standard)
    (w : World) (text : String) (mapped : Document.Value) (symbols : Bool)
    (resolver : Option (Ref .resolver)) (key : Option FileKey) :
    ∃ r v, (fromTarget l (.path text) mapped symbols resolver key).Runs w r v ∧
      foretold w.outside l.symbolExtension text mapped.isTruthy symbols key =
        r.map (appearance v) := by
  obtain ⟨r, v, run, loads⟩ := exists_loads w text mapped symbols resolver key images modules
  exact ⟨r, v, run, loads.foretold⟩

/-! ## Loading again -/

/-- What is foretold of the path that a file remembers is what the file shows. -/
lemma foretold_again {o : Outside} {extension text mapped symbols key a}
    (told : foretold o extension text mapped symbols key = .ok a) :
    foretold o extension a.path mapped symbols key = .ok a := by
  have again : Path.ofString (Path.normalize text) = .ofString text := Path.ofString_toString text
  cases image : imageAt? o (.ofString text) mapped with
  | none =>
    have path : a.path = text := by
      rw [foretold_unrecognized image] at told
      cases told
      rfl
    rw [path]
    exact told
  | some found =>
    obtain ⟨content, directories⟩ := found
    -- The normal form is read as the same path, so that the same image stands there.
    have image' : imageAt? o (.ofString (Path.normalize text)) mapped
        = some (content, directories) := by
      rw [again]
      exact image
    cases tables : tablesIn? o content directories with
    | none =>
      rw [foretold_image image tables] at told
      cases told
      exact (foretold_image image' tables).trans (by rw [Path.normalize_normalize])
    | some t =>
      rw [foretold_module image tables] at told
      obtain ⟨found, rfl⟩ := managed_of_foretoldModule told
      refine (foretold_module image' tables).trans ?_
      rw [Path.normalize_normalize]
      exact told

/-- A file that has been loaded from a path is loaded again from the path that it remembers, in any
later world with the same disk and the same parsers, and shows the same there. -/
theorem reload_same {l : Loader} (images : l.images = .standard) (modules : l.modules = .standard)
    {w v : World} {text : String} {mapped : Document.Value} {symbols : Bool}
    {resolver : Option (Ref .resolver)} {key : Option FileKey} {f : Ref .file}
    (run : (fromTarget l (.path text) mapped symbols resolver key).Runs w (.ok f) v) :
    v.outside = w.outside ∧ ∀ w' : World, w'.outside = w.outside → ∃ f' v',
      (fromTarget l (.path (v.files.get f).path) mapped symbols resolver key).Runs w' (.ok f') v' ∧
        appearance v' f' = appearance v f := by
  have loads := fromTarget_loads images modules run
  refine ⟨loads.outside, fun w' same => ?_⟩
  have told : foretold w.outside l.symbolExtension text mapped.isTruthy symbols key =
      .ok (appearance v f) := loads.foretold
  obtain ⟨r, v', again, told'⟩ := exists_foretold images modules w' (v.files.get f).path mapped
    symbols resolver key
  rw [same, ← appearance_path, foretold_again told] at told'
  cases r with
  | error failure => cases told'
  | ok f' => exact ⟨f', v', again, (Except.ok.inj told').symm⟩

/-- A world with an image that holds a module, and a symbol file beside it. -/
def symbolWorld : World :=
  { moduleWorld "Lib.dll".toList with
    disk :=
      { nodes := [([srv, "Lib.dll".toList], .file smallImage),
          ([srv, "Lib.pdb".toList], .file portableMagic)]
        current := [srv] } }

/-- What is foretold of the module with symbols beside it. -/
lemma foretold_symbolWorld :
    foretold symbolWorld.outside (.text ".pdb") "/srv/.//Lib.dll" true true none =
      .ok (.managed "/srv/Lib.dll" none smallImage.length smallTables
        (some ⟨.ofString "/srv/Lib.pdb", .portable, portableMagic⟩)) := by
  cbv

/-- The module is loaded again, with its symbols, by the normal form of its path. -/
theorem reload_same_module : ∃ f v f' v',
    (fromTarget {} (.path "/srv/.//Lib.dll") (.bool true) true none none).Runs
        symbolWorld (.ok f) v ∧
      (v.files.get f).path = "/srv/Lib.dll" ∧ (v.files.get f).backing.kind = "MODULE" ∧
      symbolsOf v (v.files.get f).backing =
        some ⟨.ofString "/srv/Lib.pdb", .portable, portableMagic⟩ ∧
      (fromTarget {} (.path "/srv/Lib.dll") (.bool true) true none none).Runs v (.ok f') v' ∧
      appearance v' f' = appearance v f := by
  obtain ⟨r, v, run, told⟩ := exists_foretold (l := {}) rfl rfl symbolWorld "/srv/.//Lib.dll"
    (.bool true) true none none
  cases r with
  | error failure => cases told.symm.trans foretold_symbolWorld
  | ok f =>
    have same := Except.ok.inj (told.symm.trans foretold_symbolWorld)
    have path := congrArg Appearance.path same
    rw [appearance_path] at path
    obtain ⟨unchanged, again⟩ := reload_same rfl rfl run
    obtain ⟨f', v', run', same'⟩ := again v unchanged
    rw [path] at run'
    exact ⟨f, v, f', v', run, path, congrArg Appearance.kind same, congrArg Appearance.symbols same,
      run', same'⟩

end Loading

end PEInspect
