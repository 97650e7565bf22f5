import Mathlib.Data.List.Induction
import PEInspect.Proofs.Loading.Inversion
import PEInspect.Proofs.World.Holders
import PEInspect.Session.Modules

/-!
# Paths that are set once

A file is built with a path or without one, and a path can be given to it once. Everything else that
is done to a file, to its annotations or to its module leaves its path and its names alone
(`Undisturbed`), and an assignment either takes the first path that says something or is refused
without a trace. So after any history a file has the path that it was built with, or the first path
that it was given, and a short name that goes with it (`path_set_once`).
-/

namespace PEInspect.Files

open PEInspect.Action Loading

/-! ## Deeds -/

/-- What a file is built over. -/
inductive Origin where
  | path (text : String)
  | image (image : Ref .image)
  | module (module : Ref .module)
  deriving Repr, DecidableEq, Inhabited

/-- Builds a file. -/
def Origin.construct (key : Option FileKey) (persistable : Bool) : Origin → Action (Ref .file)
  | path text => ofPath text key persistable
  | image i => ofImage i key persistable
  | module m => ofModule m key persistable

/-- The backing of a file that is built. -/
def Origin.backing : Origin → Backing
  | path _ => .unrecognized
  | image i => .image i
  | module m => .module m

/-- What can be done to a file, to its annotations, and to modules. A value can be made for a slot in
one step, or after further deeds of its factory (`create`). -/
inductive Deed where
  | assign (path : String)
  | mark (autoLoaded : Bool)
  | getOrCreate (key : String) (kind : AnnotationKind) (recipe : Stores.Recipe)
  | create (key : String) (kind : AnnotationKind) (recipe : Stores.Recipe)
  | lookUp
  | remove (key : String) (kind : Option AnnotationKind)
  | rename (m : Ref .module) (name : String)
  | loadSymbols (m : Ref .module) (path : Path)
  | close
  deriving Inhabited

/-- Metadata with another name in the first row of their module table. -/
def renamed (name : String) : Metadata → Metadata
  | .tables t =>
    match t.modules with
    | .listed (_ :: rest) => .tables { t with modules := .listed (⟨.plain (.text name)⟩ :: rest) }
    | _ => .tables t
  | content => content

/-- Gives a module another name: a scripted one directly, and a parsed one in its metadata. -/
def rename (m : Ref .module) (name : String) : Action Unit := do
  Action.changeModule m fun x => { x with body := Turn.renamed (some name) x.body }
  match (← Action.managedModule m).body with
  | .scripted _ => pure ()
  | .parsed r _ =>
    modify fun w =>
      { w with metadata := w.metadata.change r fun o => { o with content := renamed name o.content } }

namespace Deed

/-- Does it to a file. -/
def perform (f : Ref .file) : Deed → Action Unit
  | assign path => setPath f path
  | mark value => setAutoLoaded f value
  | getOrCreate key kind recipe => do discard (Stores.getOrCreate (.file f) key kind recipe)
  | create key kind recipe => do discard (Stores.create (.file f) key kind recipe)
  | lookUp => do discard (Stores.read (.file f))
  | remove key kind => Stores.remove (.file f) key kind
  | rename m name => Files.rename m name
  | loadSymbols m path => do discard (Modules.loadSymbols m path)
  | close => Files.close f

/-- The path that a deed assigns. -/
def path? : Deed → Option String
  | assign path => some path
  | _ => none

end Deed

/-- The world after a history of deeds on a file, whether or not each of them succeeded. -/
def after (f : Ref .file) (w : World) (history : List Deed) : World :=
  history.foldl (fun w deed => ((deed.perform f).outcome w).2) w

/-- The name for a file whose path gives none: that of its module, if it has one. -/
def defaultIn (w : World) (backing : Backing) : Except Failure String :=
  match moduleOf? backing with
  | none => .ok ""
  | some m => moduleName w m

/-- Asking a backing for its default name changes nothing. -/
lemma runs_defaultName (backing : Backing) (w : World) :
    (defaultName backing).Runs w (defaultIn w backing) w := by
  cases backing with
  | module m => exact runs_name w m
  | _ => exact runs_pure _ w

/-! ## What leaves a path alone -/

/-- A module can tell its name. -/
def Named (w : World) (m : Ref .module) : Prop :=
  ∃ name, moduleName w m = .ok name

/-- Between two worlds, a file changes in its annotations and its mark at most, and all modules that
could tell their names still can. -/
structure Undisturbed (f : Ref .file) (w v : World) : Prop where
  stands : f.index < w.files.cells.length → f.index < v.files.cells.length
  file : ∃ annotations autoLoaded, v.files.get f =
    { w.files.get f with annotations := annotations, autoLoaded := autoLoaded }
  named : ∀ m, Named w m → Named v m

section Undisturbed

variable {f : Ref .file} {w v u : World}

/-- Readable metadata tell a name, and scripted modules have one. -/
lemma named_iff {m : Ref .module} : Named w m ↔
    ∀ r lookup, (w.modules.get m).body = .parsed r lookup →
      ∃ t, (w.metadata.get r).content = .tables t := by
  rw [Named, moduleName]
  cases body : (w.modules.get m).body with
  | scripted script =>
    refine ⟨fun _ r lookup parsed => ?_, fun _ => ⟨_, rfl⟩⟩
    cases parsed
  | parsed r lookup =>
    rw [nameOf]
    cases content : (w.metadata.get r).content with
    | tables t =>
      refine ⟨fun _ r' _ same => ?_, fun _ => ⟨_, rfl⟩⟩
      cases same
      exact ⟨t, content⟩
    | headerless =>
      constructor
      · rintro ⟨_, told⟩
        cases told
      · intro named
        obtain ⟨t, same⟩ := named r lookup rfl
        rw [content] at same
        cases same
    | tableless =>
      constructor
      · rintro ⟨_, told⟩
        cases told
      · intro named
        obtain ⟨t, same⟩ := named r lookup rfl
        rw [content] at same
        cases same

/-- Modules keep their names to tell as long as they stand on the same metadata, and these stay
readable. -/
lemma named_of_kept
    (modules : ∀ m, (v.modules.get m).body.metadata? = (w.modules.get m).body.metadata?)
    (metadata : ∀ r t, (w.metadata.get r).content = .tables t →
      ∃ t, (v.metadata.get r).content = .tables t) (m : Ref .module) (named : Named w m) :
    Named v m := by
  rw [named_iff] at named ⊢
  intro r lookup body
  have same := modules m
  rw [body] at same
  cases body' : (w.modules.get m).body with
  | scripted script =>
    rw [body'] at same
    cases same
  | parsed r' lookup' =>
    rw [body'] at same
    cases same
    obtain ⟨t, content⟩ := named r lookup' body'
    exact metadata r t content

/-- A module still tells its name where the modules and the metadata are the same. -/
lemma named_of_same (modules : v.modules = w.modules) (metadata : v.metadata = w.metadata)
    (m : Ref .module) (named : Named w m) : Named v m := by
  rw [Named, moduleName, modules, metadata]
  exact named

/-- A file is not disturbed where nothing happens. -/
lemma Undisturbed.refl (f : Ref .file) (w : World) : Undisturbed f w w :=
  ⟨id, ⟨_, _, rfl⟩, fun _ => id⟩

/-- A file is not disturbed where the files are the same and modules keep their names. -/
lemma undisturbed_of_files (files : v.files = w.files) (named : ∀ m, Named w m → Named v m) :
    Undisturbed f w v := by
  refine ⟨?_, ?_, named⟩
  · rw [files]
    exact id
  · rw [files]
    exact ⟨_, _, rfl⟩

/-- Annotations and the mark of a file can change without disturbing it. -/
lemma undisturbed_changedFile {g : LoadedFile → LoadedFile}
    (same : ∀ x, ∃ annotations autoLoaded,
      g x = { x with annotations := annotations, autoLoaded := autoLoaded }) :
    Undisturbed f w (w.changedFile f g) := by
  refine ⟨?_, ?_, fun _ => id⟩
  · rw [World.changedFile, Arena.length_change]
    exact id
  · rw [World.changedFile, Arena.get_change]
    split
    · exact same _
    · exact ⟨_, _, rfl⟩

/-! ## Deeds that do so -/

/-- Annotating a file does not disturb it. -/
lemma undisturbed_annotated (a : AnnotationStore) (n : Nat) :
    Undisturbed f w (({ w with gadgets := n } : World).annotated (.file f) a) := by
  obtain ⟨stands, file, named⟩ := undisturbed_changedFile (w := { w with gadgets := n }) (f := f)
    (g := fun x => { x with annotations := a }) fun x => ⟨a, x.autoLoaded, rfl⟩
  exact ⟨stands, file, named⟩

/-- Making a slot does not disturb a file. -/
lemma exists_create (key : String) (kind : AnnotationKind) (recipe : Stores.Recipe)
    (f : Ref .file) (w : World) :
    ∃ r v, (Stores.create (.file f) key kind recipe).Runs w r v ∧ Undisturbed f w v := by
  cases result : Stores.made w kind recipe with
  | error e =>
    obtain ⟨n, run⟩ := Stores.exists_create_error (.file f) key result
    exact ⟨_, _, run, undisturbed_of_files rfl fun _ => id⟩
  | ok value =>
    obtain ⟨n, run⟩ := Stores.exists_create (.file f) key result
    exact ⟨_, _, run, undisturbed_annotated _ n⟩

/-- Asking for a slot does not disturb a file, whether or not the slot is made. -/
lemma exists_getOrCreate (key : String) (kind : AnnotationKind) (recipe : Stores.Recipe)
    (f : Ref .file) (w : World) :
    ∃ r v, (Stores.getOrCreate (.file f) key kind recipe).Runs w r v ∧ Undisturbed f w v := by
  have read := Stores.runs_read (.file f) w
  cases slot : (w.annotationsOf (.file f)).find? key kind with
  | some value =>
    refine ⟨.ok value, w, .bind read ?_, .refl f w⟩
    rw [slot]
    exact runs_pure value w
  | none =>
    obtain ⟨r, v, run, undisturbed⟩ := exists_create key kind recipe f w
    refine ⟨r, v, .bind read ?_, undisturbed⟩
    rw [slot]
    exact run

/-- Removing slots does not disturb a file. -/
lemma exists_remove (key : String) (kind : Option AnnotationKind) (f : Ref .file) (w : World) :
    ∃ r v, (Stores.remove (.file f) key kind).Runs w r v ∧ Undisturbed f w v := by
  cases left : (w.annotationsOf (.file f)).remove? key (kind.filter (· ≠ .null)) with
  | some a => exact ⟨_, _, Stores.runs_remove left, undisturbed_annotated a w.gadgets⟩
  | none =>
    refine ⟨.error .slotMissing, w, .bind (Stores.runs_read (.file f) w) ?_, .refl f w⟩
    rw [left]
    rfl

/-- Modules keep their metadata under a new name, and metadata their tables. -/
lemma exists_rename (m : Ref .module) (name : String) (f : Ref .file) (w : World) :
    ∃ r v, (rename m name).Runs w r v ∧ Undisturbed f w v := by
  let x : World := w.changedModule m fun x => { x with body := Turn.renamed (some name) x.body }
  have change : (Action.changeModule m fun x =>
      { x with body := Turn.renamed (some name) x.body }).Runs w (.ok ()) x :=
    runs_changeModule m _ w
  have bodies (s : Ref .module) :
      (x.modules.get s).body.metadata? = (w.modules.get s).body.metadata? := by
    refine Arena.get_change_same (fun x : ManagedModule => x.body.metadata?) ?_ s
    cases body : (w.modules.get m).body <;> rfl
  -- A scripted module has its name itself, and a parsed one in its metadata.
  cases body : (x.modules.get m).body with
  | scripted script =>
    refine ⟨.ok (), x, .bind change (.bind (runs_managedModule m x) ?_), ?_⟩
    · rw [body]
      exact runs_pure () x
    · exact undisturbed_of_files rfl (named_of_kept bodies fun r t content => ⟨t, content⟩)
  | parsed r lookup =>
    refine ⟨.ok (), { x with metadata := x.metadata.change r fun o =>
      { o with content := renamed name o.content } },
      .bind change (.bind (runs_managedModule m x) ?_), ?_⟩
    · rw [body]
      rfl
    · refine undisturbed_of_files rfl (named_of_kept bodies fun s t content => ?_)
      change ∃ t, ((x.metadata.change r _).get s).content = .tables t
      rw [Arena.get_change]
      split
      · rename_i same
        rw [same.1] at content
        have there : (x.metadata.get r).content = .tables t := content
        rw [there, renamed]
        split <;> exact ⟨_, rfl⟩
      · exact ⟨t, content⟩

/-- Reading symbols does not disturb a file. -/
lemma exists_loadSymbols (m : Ref .module) (path : Path) (f : Ref .file) (w : World) :
    ∃ r v, (Modules.loadSymbols m path).Runs w r v ∧ Undisturbed f w v := by
  have report := runs_ofReport (Symbols.read w.disk path) w
  rcases read : (Symbols.read w.disk path).outcome with ⟨e | result, notices⟩
  · rw [read] at report
    exact ⟨_, _, .bind (runs_get w) (.bind_error report), undisturbed_of_files rfl fun _ => id⟩
  · rw [read] at report
    cases result with
    | error refusal =>
      exact ⟨_, _, .bind (runs_get w) (.bind report (.bind (runs_pure _ _) (runs_pure _ _))),
        undisturbed_of_files rfl fun _ => id⟩
    | ok symbols =>
      refine ⟨_, _, .bind (runs_get w) (.bind report (.bind (runs_changeModule m _ _)
        (runs_pure _ _))), undisturbed_of_files rfl (named_of_kept ?_ ?_)⟩
      · exact Arena.get_change_same (fun x : ManagedModule => x.body.metadata?) rfl
      · exact fun r t content => ⟨t, content⟩

/-- A closed module can still tell its name. -/
lemma exists_closeModule (m : Ref .module) (w : World) :
    ∃ v, (Modules.close m).Runs w (.ok ()) v ∧ v.files = w.files ∧ ∀ s, Named w s → Named v s := by
  have module := runs_managedModule m w
  cases body : (w.modules.get m).body with
  | scripted script =>
    obtain ⟨v, run, files, same⟩ :=
      Modules.exists_closeImage (w.modules.get m).image (w.called (.moduleClosed script.name))
    refine ⟨v, .bind module ?_, files, named_of_same same.1 same.2⟩
    rw [body]
    exact .bind (runs_emit _ w) run
  | parsed r lookup =>
    let x : World := (w.closedMetadata r).changedModule m
      fun x => { x with body := .parsed r lookup.drop }
    obtain ⟨v, run, files, same⟩ := Modules.exists_closeImage (w.modules.get m).image x
    refine ⟨v, .bind module ?_, files, fun s known =>
      named_of_same same.1 same.2 s (named_of_kept ?_ ?_ s known)⟩
    · rw [body]
      exact .bind (Modules.runs_closeMetadata r w) (.bind (runs_changeModule m _ _) run)
    · exact Arena.get_change_same (fun x : ManagedModule => x.body.metadata?)
        (congrArg ModuleBody.metadata? body).symm
    · intro q t content
      refine ⟨t, Eq.trans ?_ content⟩
      exact Arena.get_change_same OpenMetadata.content rfl q

/-- Closing a file does not disturb it. -/
lemma exists_close (f : Ref .file) (w : World) :
    ∃ r v, (Files.close f).Runs w r v ∧ Undisturbed f w v := by
  have file := runs_file f w
  cases backing : (w.files.get f).backing with
  | unrecognized =>
    refine ⟨.ok (), w, .bind file ?_, .refl f w⟩
    rw [backing]
    exact runs_pure () w
  | image i =>
    obtain ⟨v, run, files, same⟩ :=
      Images.exists_close i (w.noted ("Closing image " ++ (w.files.get f).path))
    refine ⟨.ok (), v, .bind file ?_, undisturbed_of_files files (named_of_same same.1 same.2)⟩
    rw [backing]
    exact .bind (runs_debug _ w) run
  | module m =>
    let x := w.noted ("Closing module " ++
      if (w.files.get f).path.isEmpty then (w.files.get f).shortName else (w.files.get f).path)
    obtain ⟨v, run, files, named⟩ := exists_closeModule m x
    refine ⟨.ok (), v, .bind file ?_, undisturbed_of_files files named⟩
    rw [backing]
    exact .bind (runs_debug _ w) run

/-- Whatever is done to a file but assigning a path leaves its path and its names alone. -/
lemma exists_perform {deed : Deed} (other : deed.path? = none) (f : Ref .file) (w : World) :
    ∃ r v, (deed.perform f).Runs w r v ∧ Undisturbed f w v := by
  cases deed with
  | assign path => cases other
  | mark value =>
    exact ⟨_, _, runs_changeFile f _ w,
      undisturbed_changedFile fun x => ⟨x.annotations, value, rfl⟩⟩
  | getOrCreate key kind recipe =>
    obtain ⟨_, v, run, undisturbed⟩ := exists_getOrCreate key kind recipe f w
    exact ⟨_, v, runs_map _ run, undisturbed⟩
  | create key kind recipe =>
    obtain ⟨_, v, run, undisturbed⟩ := exists_create key kind recipe f w
    exact ⟨_, v, runs_map _ run, undisturbed⟩
  | lookUp => exact ⟨_, w, runs_map _ (Stores.runs_read (.file f) w), .refl f w⟩
  | remove key kind => exact exists_remove key kind f w
  | rename m name => exact exists_rename m name f w
  | loadSymbols m path =>
    obtain ⟨_, v, run, undisturbed⟩ := exists_loadSymbols m path f w
    exact ⟨_, v, runs_map _ run, undisturbed⟩
  | close => exact exists_close f w

end Undisturbed

/-! ## Assigning a path -/

section Assign

variable {f : Ref .file} {w : World} {path : String}

/-- A file that has a path refuses another one. -/
lemma runs_setPath_set (set : (w.files.get f).path ≠ "") :
    (setPath f path).Runs w (.error .pathAlreadySet) w := by
  refine .bind (runs_file f w) ?_
  rw [if_pos set]
  rfl

/-- A file without a path refuses the empty one. -/
lemma runs_setPath_empty (unset : (w.files.get f).path = "") :
    (setPath f "").Runs w (.error .pathEmpty) w := by
  refine .bind (runs_file f w) ?_
  rw [if_neg (not_not_intro unset)]
  rfl

/-- A file with a path and the short name that goes with it. -/
def withPath (path default : String) (x : LoadedFile) : LoadedFile :=
  { x with path := path, shortName := shortName path default }

/-- A file without a path takes one, and its short name with it. -/
lemma runs_setPath {default : String} (unset : (w.files.get f).path = "") (full : path ≠ "")
    (known : defaultIn w (w.files.get f).backing = .ok default) :
    (setPath f path).Runs w (.ok ()) (w.changedFile f (withPath path default)) := by
  have name := runs_defaultName (w.files.get f).backing
    (w.changedFile f fun x => { x with path := path })
  have same : defaultIn (w.changedFile f fun x => { x with path := path })
      (w.files.get f).backing = .ok default := known
  rw [same] at name
  have twice : (w.changedFile f fun x => { x with path := path }).changedFile f
      (fun x => { x with shortName := shortName path default })
      = w.changedFile f (withPath path default) := by
    simp only [World.changedFile, Arena.change_change]
    rfl
  refine .bind (runs_file f w) ?_
  rw [if_neg (not_not_intro unset), if_neg full]
  refine .bind (runs_changeFile f _ w) (.bind name ?_)
  rw [← twice]
  exact runs_changeFile f _ _

/-- The ways in which a file takes an assignment. Only one of them changes anything. -/
inductive Assigns (f : Ref .file) (path : String) (w : World) :
    Except Failure Unit → World → Prop where
  | taken {default} :
    (w.files.get f).path = "" →
    path ≠ "" →
    defaultIn w (w.files.get f).backing = .ok default →
    Assigns f path w (.ok ()) (w.changedFile f (withPath path default))
  | set :
    (w.files.get f).path ≠ "" →
    Assigns f path w (.error .pathAlreadySet) w
  | empty :
    (w.files.get f).path = "" →
    path = "" →
    Assigns f path w (.error .pathEmpty) w

/-- Assigning a path runs in one of the ways that are listed. -/
lemma exists_assigns {default : String} (f : Ref .file) (path : String)
    (known : defaultIn w (w.files.get f).backing = .ok default) :
    ∃ r v, (setPath f path).Runs w r v ∧ Assigns f path w r v := by
  by_cases unset : (w.files.get f).path = ""
  · by_cases empty : path = ""
    · subst empty
      exact ⟨_, _, runs_setPath_empty unset, .empty unset rfl⟩
    · exact ⟨_, _, runs_setPath unset empty known, .taken unset empty known⟩
  · exact ⟨_, _, runs_setPath_set unset, .set unset⟩

end Assign

/-! ## Histories -/

/-- What stays the same of a file, and what it takes to go on. -/
structure Stable (origin : Origin) (key : Option FileKey) (persistable : Bool) (f : Ref .file)
    (w : World) : Prop where
  stands : f.index < w.files.cells.length
  backing : (w.files.get f).backing = origin.backing
  explicitKey : (w.files.get f).explicitKey = key
  persistable : (w.files.get f).persistable = persistable
  named : ∃ default, defaultIn w origin.backing = .ok default

section History

variable {origin : Origin} {key : Option FileKey} {persistable : Bool} {f : Ref .file} {w v : World}

/-- A file is built as it was ordered, with a short name that goes with its path. -/
lemma stable_build {path : String}
    (run : (build origin.backing path key persistable).Runs w (.ok f) v) :
    Stable origin key persistable f v ∧ ∃ default, defaultIn v origin.backing = .ok default ∧
      (v.files.get f).shortName = shortName (v.files.get f).path default := by
  obtain ⟨default, u, named, adding⟩ := run.bind_ok
  obtain ⟨known, rfl⟩ := named.unique (runs_defaultName origin.backing w)
  obtain ⟨same, rfl⟩ := adding.unique (runs_addFile _ u)
  cases same
  let x : LoadedFile := {
    backing := origin.backing
    path := path
    explicitKey := key
    persistable := persistable
    shortName := shortName path default }
  have file : (u.withFile x).files.get u.files.next = x := World.get_withFile x rfl
  refine ⟨⟨?_, congrArg LoadedFile.backing file, congrArg LoadedFile.explicitKey file,
    congrArg LoadedFile.persistable file, default, known.symm⟩, default, known.symm, ?_⟩
  · rw [World.withFile, Arena.length_add]
    exact Nat.lt_succ_self _
  · rw [file]

/-- A file that has just been made is stable, and named by its path and its default name. -/
lemma stable_construct (built : (origin.construct key persistable).Runs w (.ok f) v) :
    Stable origin key persistable f v ∧ ∃ default, defaultIn v origin.backing = .ok default ∧
      (v.files.get f).shortName = shortName (v.files.get f).path default := by
  -- All three come to `build`, each in the world that it has reached by then.
  cases origin with
  | path text => exact stable_build built
  | image i =>
    obtain ⟨_, _, -, built⟩ := built.bind_ok
    exact stable_build built
  | module m =>
    obtain ⟨_, _, -, built⟩ := built.bind_ok
    obtain ⟨_, _, -, built⟩ := built.bind_ok
    exact stable_build built

/-- A file that is not disturbed stays stable. -/
lemma Stable.undisturbed (stable : Stable origin key persistable f w)
    (calm : Undisturbed f w v) : Stable origin key persistable f v := by
  obtain ⟨annotations, autoLoaded, file⟩ := calm.file
  refine ⟨calm.stands stable.stands, ?_, ?_, ?_, ?_⟩
  · rw [file]
    exact stable.backing
  · rw [file]
    exact stable.explicitKey
  · rw [file]
    exact stable.persistable
  · -- The name may be another one by now; for later assignments there only has to be one.
    have named := stable.named
    rw [defaultIn] at named ⊢
    cases module : moduleOf? origin.backing with
    | none => exact ⟨"", rfl⟩
    | some m =>
      rw [module] at named
      exact calm.named m named

/-- A file stays stable when a path is assigned to it. -/
lemma Stable.assigns (stable : Stable origin key persistable f w) {path r}
    (assigns : Assigns f path w r v) : Stable origin key persistable f v := by
  cases assigns with
  | @taken default =>
    have file : (w.changedFile f (withPath path default)).files.get f
        = withPath path default (w.files.get f) := Arena.get_set_self w.files _ stable.stands
    refine ⟨?_, ?_, ?_, ?_, stable.named⟩
    · rw [World.changedFile, Arena.length_change]
      exact stable.stands
    · rw [file]
      exact stable.backing
    · rw [file]
      exact stable.explicitKey
    · rw [file]
      exact stable.persistable
  | set => exact stable
  | empty => exact stable

/-- A path can be assigned to a stable file in one of the ways that are listed. -/
lemma Stable.exists_assigns (stable : Stable origin key persistable f w) (path : String) :
    ∃ r v, (setPath f path).Runs w r v ∧ Assigns f path w r v := by
  obtain ⟨default, known⟩ := stable.named
  rw [← stable.backing] at known
  exact Files.exists_assigns f path known

/-- A deed after a history starts from the world that the history leaves. -/
lemma after_snoc (f : Ref .file) (w : World) (history : List Deed) (deed : Deed) :
    after f w (history ++ [deed]) = ((deed.perform f).outcome (after f w history)).2 := by
  rw [after, List.foldl_append]
  rfl

/-- What one deed does to a file: only an assignment can disturb it. -/
inductive Next (f : Ref .file) : Deed → World → World → Prop where
  | assigned {path r w v} :
    Assigns f path w r v →
    Next f (.assign path) w v
  | calm {deed w v} :
    deed.path? = none →
    Undisturbed f w v →
    Next f deed w v

/-- A deed does to a stable file what the list says. -/
lemma Stable.next (stable : Stable origin key persistable f w) (deed : Deed) :
    Next f deed w ((deed.perform f).outcome w).2 := by
  cases offer : deed.path? with
  | some _ =>
    cases deed with
    | assign path =>
      obtain ⟨r, v, run, assigns⟩ := stable.exists_assigns path
      have last : ((setPath f path).outcome w).2 = v := congrArg Prod.snd run
      rw [Deed.perform, last]
      exact .assigned assigns
    | _ => cases offer
  | none =>
    obtain ⟨r, v, run, calm⟩ := exists_perform offer f w
    have last : ((deed.perform f).outcome w).2 = v := congrArg Prod.snd run
    rw [last]
    exact .calm offer calm

/-- A deed leaves a stable file stable. -/
lemma Next.stable {deed : Deed} (next : Next f deed w v)
    (stable : Stable origin key persistable f w) : Stable origin key persistable f v := by
  cases next with
  | assigned assigns => exact stable.assigns assigns
  | calm _ calm => exact stable.undisturbed calm

/-- A history leaves a stable file stable. -/
lemma Stable.after (stable : Stable origin key persistable f w) (history : List Deed) :
    Stable origin key persistable f (after f w history) := by
  induction history using List.reverseRecOn with
  | nil => exact stable
  | append_singleton history deed ih =>
    rw [after_snoc]
    exact (ih.next deed).stable ih

/-- A deed does not change the path if the file has one or the deed does not offer one. -/
lemma Next.path_kept {deed : Deed} (next : Next f deed w v)
    (kept : (w.files.get f).path ≠ "" ∨ ∀ path, deed = .assign path → path = "") :
    (v.files.get f).path = (w.files.get f).path ∧
      (v.files.get f).shortName = (w.files.get f).shortName := by
  cases next with
  | assigned assigns =>
    cases assigns with
    | taken unset full =>
      rcases kept with set | empty
      · exact absurd unset set
      · exact absurd (empty _ rfl) full
    | set => exact ⟨rfl, rfl⟩
    | empty => exact ⟨rfl, rfl⟩
  | calm _ calm =>
    obtain ⟨annotations, autoLoaded, file⟩ := calm.file
    rw [file]
    exact ⟨rfl, rfl⟩

/-- No history changes the path of a file that has one, or offers none. -/
lemma Stable.path_kept (stable : Stable origin key persistable f w) (history : List Deed)
    (kept : (w.files.get f).path ≠ "" ∨ ∀ path, .assign path ∈ history → path = "") :
    ((Files.after f w history).files.get f).path = (w.files.get f).path ∧
      ((Files.after f w history).files.get f).shortName = (w.files.get f).shortName := by
  induction history using List.reverseRecOn with
  | nil => exact ⟨rfl, rfl⟩
  | append_singleton history deed ih =>
    -- Until the last deed the path has been kept, so that its condition still holds before it.
    have before := ih (kept.imp id fun empty path mem => empty path (List.mem_append_left _ mem))
    have step := (stable.after history).next deed
    rw [after_snoc]
    have now := step.path_kept (kept.imp (fun set => ?_) fun empty path same => ?_)
    · exact ⟨now.1.trans before.1, now.2.trans before.2⟩
    · rw [before.1]
      exact set
    · exact empty path (by rw [same]; simp)

/-- The first path that is offered to a file without one is the path of the file from then on, and its
short name goes with the name that its module had then. -/
lemma Stable.path_taken (stable : Stable origin key persistable f w)
    (unset : (w.files.get f).path = "") {earlier : List Deed} {path : String} (full : path ≠ "")
    (empty : ∀ path, .assign path ∈ earlier → path = "") (later : List Deed) :
    ((Files.after f w (earlier ++ .assign path :: later)).files.get f).path = path ∧
      ∃ default, defaultIn (Files.after f w earlier) origin.backing = .ok default ∧
        ((Files.after f w (earlier ++ .assign path :: later)).files.get f).shortName =
          shortName path default := by
  have before := stable.after earlier
  have free := (stable.path_kept earlier (.inr empty)).1.trans unset
  -- After the assignment itself the file has a path, which the rest of the history keeps.
  have taken : ∃ default, defaultIn (Files.after f w earlier) origin.backing = .ok default ∧
      (Files.after f w (earlier ++ [.assign path])).files.get f =
        withPath path default ((Files.after f w earlier).files.get f) := by
    have step := before.next (.assign path)
    rw [← after_snoc] at step
    generalize Files.after f w (earlier ++ [.assign path]) = u at step ⊢
    cases step with
    | assigned assigns =>
      cases assigns with
      | taken _ _ known =>
        rw [before.backing] at known
        exact ⟨_, known, Arena.get_set_self _ _ before.stands⟩
      | set set => exact absurd free set
      | empty _ blank => exact absurd blank full
    | calm other => cases other
  obtain ⟨default, known, file⟩ := taken
  have split : Files.after f w (earlier ++ .assign path :: later)
      = Files.after f (Files.after f w (earlier ++ [.assign path])) later := by
    rw [Files.after, Files.after, Files.after, ← List.foldl_append, List.append_assoc]
    rfl
  have set : ((Files.after f w (earlier ++ [.assign path])).files.get f).path ≠ "" := by
    rw [file]
    exact full
  have kept := (stable.after (earlier ++ [.assign path])).path_kept later (.inl set)
  rw [split, kept.1, kept.2, file]
  exact ⟨rfl, default, known, rfl⟩

/-- The path of a file is set once. Whatever is done to a file that has been built, what it is built
over, its given key and whether it persists stay; its path and short name are those that it was built
with, or, from the first assignment on that gives a path to a file without one, that path and the name
that goes with it and with the name of its module at that moment. Every other assignment is refused
and changes nothing at all. -/
theorem path_set_once (built : (origin.construct key persistable).Runs w (.ok f) v)
    (history : List Deed) :
    ((after f v history).files.get f).backing = origin.backing ∧
      ((after f v history).files.get f).explicitKey = key ∧
      ((after f v history).files.get f).persistable = persistable ∧
      ((after f v history).files.get f).key =
        key.getD (.filename ((after f v history).files.get f).path) ∧
      (∃ default, defaultIn v origin.backing = .ok default ∧
        (v.files.get f).shortName = shortName (v.files.get f).path default) ∧
      ((v.files.get f).path ≠ "" ∨ (∀ path, .assign path ∈ history → path = "") →
        ((after f v history).files.get f).path = (v.files.get f).path ∧
          ((after f v history).files.get f).shortName = (v.files.get f).shortName) ∧
      (∀ earlier path later, (v.files.get f).path = "" →
        history = earlier ++ .assign path :: later →
        (∀ path, .assign path ∈ earlier → path = "") → path ≠ "" →
          ((after f v history).files.get f).path = path ∧
            ∃ default, defaultIn (after f v earlier) origin.backing = .ok default ∧
              ((after f v history).files.get f).shortName = shortName path default) ∧
      ∀ path, ∃ r u, (setPath f path).Runs (after f v history) r u ∧
        Assigns f path (after f v history) r u := by
  obtain ⟨stable, name⟩ := stable_construct built
  have now := stable.after history
  refine ⟨now.backing, now.explicitKey, now.persistable, ?_, name, stable.path_kept history, ?_,
    now.exists_assigns⟩
  · rw [LoadedFile.key, now.explicitKey]
  · rintro earlier path later unset rfl empty full
    exact stable.path_taken unset full empty later

/-- A scripted module without a location. -/
def placelessWorld : World where
  modules := ⟨[{ location := none, body := .scripted {} }]⟩

/-- A file of a module without a location takes its second path, with the name that the module has
been given by then. -/
theorem path_set_once_placeless :
    ∃ f v, ((Origin.module ⟨0⟩).construct none true).Runs placelessWorld (.ok f) v ∧
      ((after f v [.assign "", .rename ⟨0⟩ "New.dll", .assign "/", .rename ⟨0⟩ "Late.dll",
        .assign "b.dll"]).files.get f).path = "/" ∧
      ((after f v [.assign "", .rename ⟨0⟩ "New.dll", .assign "/", .rename ⟨0⟩ "Late.dll",
        .assign "b.dll"]).files.get f).shortName = "New.dll" := by
  let v := (((Origin.module ⟨0⟩).construct none true).outcome placelessWorld).2
  have built : ((Origin.module ⟨0⟩).construct none true).Runs placelessWorld (.ok ⟨0⟩) v := rfl
  have empty (path : String) :
      .assign path ∈ [.assign "", Deed.rename ⟨0⟩ "New.dll"] → path = "" := by
    rintro (_ | ⟨_, _ | ⟨_, ⟨⟩⟩⟩)
    rfl
  obtain ⟨-, -, -, -, -, -, taken, -⟩ := path_set_once built [.assign "", .rename ⟨0⟩ "New.dll",
    .assign "/", .rename ⟨0⟩ "Late.dll", .assign "b.dll"]
  obtain ⟨path, default, known, name⟩ := taken [.assign "", .rename ⟨0⟩ "New.dll"] "/"
    [.rename ⟨0⟩ "Late.dll", .assign "b.dll"] rfl rfl empty (by decide)
  have then_ : defaultIn (after ⟨0⟩ v [.assign "", .rename ⟨0⟩ "New.dll"]) (.module ⟨0⟩)
      = .ok "New.dll" := rfl
  rw [Origin.backing, then_] at known
  cases known
  have short : shortName "/" "New.dll" = "New.dll" := by decide +kernel
  exact ⟨⟨0⟩, v, built, path, name.trans short⟩

end History

end PEInspect.Files
