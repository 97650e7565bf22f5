import PEInspect.Proofs.Loading.Stages
import PEInspect.Proofs.Symbols.History
import PEInspect.Proofs.World.Frame

/-!
# Exactness of the symbol step

Loading with symbols goes as loading without them does, and takes one step more where it has come to
a module (`goesFurther_load`). That step attaches symbols exactly if a symbol file lies beside the
location of the module (`SymbolFile`): a regular file at the candidate whose content starts as one of
the known formats does. Its symbols are then all that changes, and without it nothing does, apart from
notices (`symbols_exact`).
-/

namespace PEInspect

namespace SymbolFormat

/-- The bytes that symbol files start with. -/
def magics : List Bytes :=
  [portableMagic, windowsMagic, formerWindowsMagic]

variable {content : Bytes}

/-- A format is detected exactly if the content starts as one of them does. -/
lemma detect?_eq_none : detect? content = none ↔ ¬ ∃ magic ∈ magics, magic <+: content := by
  simp only [detect?, magics, List.exists_mem_cons_iff, List.not_mem_nil, false_and, exists_false,
    or_false, ← List.isPrefixOf_iff_prefix]
  cases portableMagic.isPrefixOf content <;> cases windowsMagic.isPrefixOf content <;>
    cases formerWindowsMagic.isPrefixOf content <;> simp

/-- The portable format is the one with its own magic in front. -/
lemma detect?_portable {format} (known : detect? content = some format) :
    format = .portable ↔ portableMagic <+: content := by
  rw [← List.isPrefixOf_iff_prefix]
  rw [detect?] at known
  split at known
  · rename_i starts
    cases known
    exact iff_of_true rfl starts
  · rename_i other
    refine iff_of_false ?_ other
    rintro rfl
    split at known <;> cases known

end SymbolFormat

namespace Loading

open PEInspect.Action SymbolFormat

/-- A symbol file for a module at a location: a regular file at the candidate, with a content that
starts as symbol files do. -/
structure SymbolFile (disk : Disk) (location extension : String) (c : Path) (content : Bytes) :
    Prop where
  located : location ≠ ""
  named : (Path.ofString location).name ≠ []
  candidate : Symbols.candidate location extension = .ok (some c)
  regular : disk.hasFile c = .ok true
  read : disk.read c = .ok content
  recognized : ∃ magic ∈ magics, magic <+: content

/-- There is one symbol file for a location at most. -/
lemma SymbolFile.unique {disk : Disk} {location extension : String} {c c' : Path}
    {content content' : Bytes} (file : SymbolFile disk location extension c content)
    (file' : SymbolFile disk location extension c' content') : c' = c ∧ content' = content := by
  cases file'.candidate.symm.trans file.candidate
  cases file'.read.symm.trans file.read
  exact ⟨rfl, rfl⟩

/-- A module with a location is there. -/
lemma there_of_located {w : World} {m : Ref .module} (located : locationOf w m ≠ "") :
    m.index < w.modules.cells.length := by
  by_contra gone
  refine located ?_
  rw [locationOf, Arena.get, List.getD_eq_default _ _ (Nat.le_of_not_lt gone)]
  rfl

/-! ## The step -/

section Step

variable {extension : String} {m : Ref .module} {w v : World} {r : Except Failure Unit}

/-- What the symbol step does where a symbol file lies beside the module, and where none does. -/
inductive Steps (extension : String) (m : Ref .module) (w : World) : World → Prop where
  | found {c content format log} :
    SymbolFile w.disk (locationOf w m) extension c content →
    detect? content = some format →
    Steps extension m w { w with
      log := log
      modules := w.modules.change m fun x => { x with symbols := some ⟨c, format, content⟩ } }
  | missed {log} :
    (¬ ∃ c content, SymbolFile w.disk (locationOf w m) extension c content) →
    Steps extension m w { w with log := log }

/-- For a module without symbols, whose candidate the disk answers for, the step finds the symbol
file or misses it. -/
lemma Attaches.steps (att : Attaches (.text extension) m w r v) (makes : Symbols.MakesNames extension)
    (bare : (w.modules.get m).symbols = none)
    (answered : ∀ c, Symbols.candidate (locationOf w m) extension = .ok (some c) →
      ∃ there, w.disk.hasFile c = .ok there) : r = .ok () ∧ Steps extension m w v := by
  have rule := Symbols.candidate_eq (locationOf w m) makes
  cases att with
  | settled idle =>
    refine ⟨rfl, .missed ?_⟩
    rintro ⟨c, content, file⟩
    refine idle ⟨?_, by rw [bare]; rfl⟩
    simpa using file.located
  | malformed _ cand => cases rule.symm.trans cand
  | nameless _ cand =>
    refine ⟨rfl, .missed ?_⟩
    rintro ⟨c, content, file⟩
    cases file.candidate.symm.trans cand
  | unanswered _ cand unknown =>
    obtain ⟨there, known⟩ := answered _ cand
    cases unknown.symm.trans known
  | absent _ cand gone =>
    refine ⟨rfl, .missed ?_⟩
    rintro ⟨c, content, file⟩
    cases file.candidate.symm.trans cand
    cases gone.symm.trans file.regular
  | unfit _ cand rd unknown =>
    refine ⟨rfl, .missed ?_⟩
    rintro ⟨c, content, file⟩
    cases file.candidate.symm.trans cand
    cases rd.symm.trans file.read
    exact detect?_eq_none.mp unknown file.recognized
  | barred _ cand _ rd =>
    refine ⟨rfl, .missed ?_⟩
    rintro ⟨c, content, file⟩
    cases file.candidate.symm.trans cand
    cases rd.symm.trans file.read
  | @attached c content format wants cand rd known =>
    refine ⟨rfl, .found ⟨?_, ?_, cand, Disk.hasFile_of_read rd, rd, ?_⟩ known⟩
    · simpa using wants.1
    · intro nameless
      rw [if_pos nameless] at rule
      cases rule.symm.trans cand
    · by_contra unknown
      cases known.symm.trans (detect?_eq_none.mpr unknown)

section Steps

variable (steps : Steps extension m w v)
include steps

/-- Where there is a symbol file, its symbols are attached, and that is all. -/
lemma Steps.of_file {c : Path} {content : Bytes}
    (file : SymbolFile w.disk (locationOf w m) extension c content) :
    ∃ log format, (v.modules.get m).symbols = some ⟨c, format, content⟩ ∧
      (format = .portable ↔ portableMagic <+: content) ∧
      v = { w with
        log := log
        modules := w.modules.change m
          fun x => { x with symbols := some ⟨c, format, content⟩ } } := by
  cases steps with
  | found file' known =>
    obtain ⟨rfl, rfl⟩ := file'.unique file
    refine ⟨_, _, ?_, detect?_portable known, rfl⟩
    exact congrArg ManagedModule.symbols
      (Arena.get_set_self w.modules _ (there_of_located file.located))
  | missed none_ => exact absurd ⟨c, content, file⟩ none_

/-- Where there is no symbol file, nothing changes but the notices. -/
lemma Steps.of_none
    (none_ : ¬ ∃ c content, SymbolFile w.disk (locationOf w m) extension c content) :
    ∃ log, v = { w with log := log } := by
  cases steps with
  | found file => exact absurd ⟨_, _, file⟩ none_
  | missed => exact ⟨_, rfl⟩

/-- A module has symbols after the step exactly if there is a symbol file. -/
lemma Steps.isSome_iff (bare : (w.modules.get m).symbols = none) :
    (v.modules.get m).symbols.isSome = true ↔
      ∃ c content, SymbolFile w.disk (locationOf w m) extension c content := by
  constructor
  · intro has
    by_contra none_
    obtain ⟨log, rfl⟩ := steps.of_none none_
    rw [bare] at has
    cases has
  · rintro ⟨c, content, file⟩
    obtain ⟨_, _, has, -⟩ := steps.of_file file
    rw [has]
    rfl

end Steps

end Step

/-! ## Going on with symbols -/

/-- How a load with symbols goes on from where one without them ends: not at all after a failure or
with a file without a module, and otherwise with the symbol step, for a module without symbols. -/
inductive GoesOn (l : Loader) (v : World) :
    Except Failure (Ref .file) → Except Failure (Ref .file) → World → Prop where
  | failed {e} : GoesOn l v (.error e) (.error e) v
  | plain {f} :
    (∀ m, (v.files.get f).backing ≠ .module m) →
    GoesOn l v (.ok f) (.ok f) v
  | stepped {f m step u} :
    (v.files.get f).backing = .module m →
    (v.modules.get m).symbols = none →
    (attachSymbols l m).Runs v step u →
    GoesOn l v (.ok f) (step.map fun _ => f) u

/-- From a world, one action runs as another one does and goes on from there. -/
def GoesFurther (l : Loader) (w : World) (action further : Action (Ref .file)) : Prop :=
  ∀ r v, action.Runs w r v → ∃ r' u, further.Runs w r' u ∧ GoesOn l v r r' u

section GoesFurther

variable {l : Loader} {w : World}

/-- Actions that start with the same step go the same way up to its end. -/
lemma GoesFurther.bind {α : Type} {first : Action α} {next further : α → Action (Ref .file)}
    (rest : ∀ x v, first.Runs w (.ok x) v → GoesFurther l v (next x) (further x)) :
    GoesFurther l w (first >>= next) (first >>= further) := by
  intro r v run
  obtain ⟨f, failed, rfl⟩ | ⟨x, y, start, run⟩ := run.bind_cases
  · exact ⟨_, _, .bind_error failed, .failed⟩
  · obtain ⟨r', u, run', goes⟩ := rest x y start r v run
    exact ⟨r', u, .bind start run', goes⟩

/-- What makes files of another kind does not go any further. -/
lemma goesFurther_of_kind {action : Action (Ref .file)} {kind : String} (other : kind ≠ "MODULE")
    (shown : ∀ f v, action.Runs w (.ok f) v → (v.files.get f).backing.kind = kind) :
    GoesFurther l w action action := by
  intro r v run
  refine ⟨r, v, run, ?_⟩
  cases r with
  | error e => exact .failed
  | ok f =>
    refine .plain fun m backing => other ?_
    rw [← shown f v run, backing]
    rfl

/-- A file over an image goes no further. -/
lemma goesFurther_ofImage (i : Ref .image) (key : Option FileKey) :
    GoesFurther l w (Files.ofImage i key true) (Files.ofImage i key true) :=
  goesFurther_of_kind (by decide) fun _ _ => kind_ofImage

/-- Wrapping a module without symbols goes further by the symbol step. -/
lemma goesFurther_wrapModule {m : Ref .module} (key : Option FileKey)
    (bare : (w.modules.get m).symbols = none) :
    GoesFurther l w (wrapModule l m false key) (wrapModule l m true key) := by
  refine .bind fun f v made r v' run => ?_
  cases run
  obtain ⟨step, u, run', -⟩ := exists_attaches l v m
  cases known : moduleName w m with
  | error e =>
    obtain ⟨same, -⟩ := made.unique (runs_ofModule_nameless key known)
    cases same
  | ok name =>
    obtain ⟨same, rfl⟩ := made.unique (runs_ofModule key known)
    cases same
    have wraps : Wraps l.symbolExtension m false key w _ (wrapped w m key name) := .bare known rfl
    refine ⟨_, u, runs_map _ run', .stepped wraps.made.backing ?_ run'⟩
    exact (indexed_get ManagedModule.symbols (fun _ _ _ _ => rfl) m).trans bare

variable (resolver : Option (Ref .resolver)) (key : Option FileKey)

/-- Classifying an image goes further by the symbol step of its module. -/
lemma goesFurther_classify (label : String) (i : Ref .image) :
    GoesFurther l w (classify l label i false resolver key)
      (classify l label i true resolver key) := by
  refine .bind fun managed _ _ => ?_
  cases managed with
  | false => exact .bind fun _ _ _ => goesFurther_ofImage i key
  | true =>
    refine .bind fun context _ _ => .bind fun result x parsed => ?_
    cases result with
    | error refusal => exact .bind fun _ _ _ => goesFurther_ofImage i key
    | ok m =>
      -- The name is only asked for to be noted, so the module is as it has been parsed.
      refine .bind fun name y named => .bind fun _ z noted => goesFurther_wrapModule key ?_
      obtain ⟨-, rfl⟩ := named.unique (runs_name x m)
      obtain ⟨-, rfl⟩ := noted.unique (runs_debug _ _)
      obtain ⟨_, _, made⟩ := parseModule_made parsed
      exact congrArg ManagedModule.symbols made

/-- Loading a path or a content goes further by the symbol step. -/
lemma goesFurther_fromTarget (target : Target) (mapped : Document.Value) :
    GoesFurther l w (fromTarget l target mapped false resolver key)
      (fromTarget l target mapped true resolver key) := by
  refine .bind fun result _ _ => ?_
  cases result with
  | error refusal =>
    exact .bind fun _ _ _ => goesFurther_of_kind (by decide) fun _ _ => kind_unrecognized
  | ok i => exact goesFurther_classify resolver key target.label i

/-- Loading a module without symbols goes further by the symbol step. -/
lemma goesFurther_fromModule {m : Ref .module} (bare : (w.modules.get m).symbols = none) :
    GoesFurther l w (fromModule l m false resolver key) (fromModule l m true resolver key) := by
  refine .bind fun context x made => .bind fun _ y changed => goesFurther_wrapModule key ?_
  cases made
  cases changed
  exact (adopted_get ManagedModule.symbols (fun _ _ => rfl) m).trans bare

end GoesFurther

/-! ## Loader calls -/

/-- What a loader is called on: a path or a content, or a module that a caller has parsed. -/
inductive Subject where
  | target (target : Target) (mapped : Document.Value)
  | module (m : Ref .module)

/-- The call of a loader, with symbols or without them. -/
def Subject.load (l : Loader) (symbols : Bool) (resolver : Option (Ref .resolver))
    (key : Option FileKey) : Subject → Action (Ref .file)
  | target t mapped => fromTarget l t mapped symbols resolver key
  | module m => fromModule l m symbols resolver key

section Load

variable {l : Loader} {w : World} {s : Subject} {resolver : Option (Ref .resolver)}
  {key : Option FileKey}

/-- The call of a loader goes further by the symbol step. -/
lemma goesFurther_load (bare : ∀ m, s = .module m → (w.modules.get m).symbols = none) :
    GoesFurther l w (s.load l false resolver key) (s.load l true resolver key) := by
  cases s with
  | target t mapped => exact goesFurther_fromTarget resolver key t mapped
  | module m => exact goesFurther_fromModule resolver key (bare m rfl)

/-- The call of a loader leaves the disk alone. -/
lemma keepsDisk_load (symbols : Bool) : KeepsDisk (s.load l symbols resolver key) := by
  cases s with
  | target t mapped => exact keepsDisk_fromTarget l symbols resolver key t mapped
  | module m => exact keepsDisk_fromModule l symbols resolver key m

/-- Loading with symbols comes to the same file as loading without them. If the file has a module, the
module has symbols afterwards exactly if a symbol file lies beside its location: then they are the
symbols of that file, whole and in the format that the content shows, and all that changes, and
otherwise nothing does, apart from notices. -/
theorem symbols_exact {extension : String} {v : World} {r : Except Failure (Ref .file)}
    (text : l.symbolExtension = .text extension)
    (dotted : ∃ rest, extension.toList = '.' :: rest ∧ rest ≠ [] ∧ '/' ∉ rest)
    (bare : ∀ m, s = .module m → (w.modules.get m).symbols = none)
    (plain : (s.load l false resolver key).Runs w r v)
    (answered : ∀ f m c, r = .ok f → (v.files.get f).backing = .module m →
      Symbols.candidate (locationOf v m) extension = .ok (some c) →
      ∃ there, w.disk.hasFile c = .ok there) :
    ∃ u, (s.load l true resolver key).Runs w r u ∧
      ((∀ f m, r = .ok f → (v.files.get f).backing ≠ .module m) → u = v) ∧
      ∀ f m, r = .ok f → (v.files.get f).backing = .module m →
        ((u.modules.get m).symbols.isSome = true ↔
          ∃ c content, SymbolFile w.disk (locationOf v m) extension c content) ∧
        (∀ c content, SymbolFile w.disk (locationOf v m) extension c content →
          ∃ log format, (u.modules.get m).symbols = some ⟨c, format, content⟩ ∧
            (format = .portable ↔ portableMagic <+: content) ∧
            u = { v with
              log := log
              modules := v.modules.change m
                fun x => { x with symbols := some ⟨c, format, content⟩ } }) ∧
        ((¬ ∃ c content, SymbolFile w.disk (locationOf v m) extension c content) →
          ∃ log, u = { v with log := log }) := by
  have makes := Symbols.makesNames_of_dotted dotted
  have disk : v.disk = w.disk := (keepsDisk_load false).runs plain
  obtain ⟨r', u, run, goes⟩ := goesFurther_load bare r v plain
  cases goes with
  | failed =>
    refine ⟨v, run, fun _ => rfl, fun f m same => ?_⟩
    cases same
  | plain other =>
    refine ⟨v, run, fun _ => rfl, fun f m same backing => ?_⟩
    cases same
    exact absurd backing (other m)
  | @stepped f m step _ backing bare step_ =>
    obtain ⟨step', u', step_', att⟩ := exists_attaches l v m
    obtain ⟨rfl, rfl⟩ := step_.unique step_'
    rw [text] at att
    obtain ⟨rfl, steps⟩ := att.steps makes bare fun c cand => disk ▸ answered f m c rfl backing cand
    refine ⟨u, run, fun other => absurd backing (other f m rfl), fun f' m' same backing' => ?_⟩
    cases same
    cases backing.symm.trans backing'
    rw [← disk]
    exact ⟨steps.isSome_iff bare, fun c content file => steps.of_file file, steps.of_none⟩

end Load

/-- The symbol file beside a module is found. -/
theorem symbols_exact_beside : ∃ f v u,
    (Subject.load {} false none none (.module ⟨0⟩)).Runs Symbols.besideWorld (.ok f) v ∧
      (Subject.load {} true none none (.module ⟨0⟩)).Runs Symbols.besideWorld (.ok f) u ∧
      SymbolFile Symbols.besideWorld.disk "/srv/Lib.dll" ".pdb" (.ofString "/srv/Lib.pdb")
        portableMagic ∧
      (v.modules.get ⟨0⟩).symbols = none ∧
      (u.modules.get ⟨0⟩).symbols = some Symbols.foundSymbols := by
  let done := (Subject.load {} false none none (.module ⟨0⟩)).outcome Symbols.besideWorld
  have result : done.1 = .ok ⟨0⟩ := by cbv
  have backing : (done.2.files.get ⟨0⟩).backing = .module ⟨0⟩ := by cbv
  have location : locationOf done.2 ⟨0⟩ = "/srv/Lib.dll" := by cbv
  have candidate : Symbols.candidate "/srv/Lib.dll" ".pdb" =
      .ok (some (.ofString "/srv/Lib.pdb")) := by
    cbv
  have read : Symbols.besideWorld.disk.read (.ofString "/srv/Lib.pdb") = .ok portableMagic := by cbv
  have file : SymbolFile Symbols.besideWorld.disk "/srv/Lib.dll" ".pdb" (.ofString "/srv/Lib.pdb")
      portableMagic := by
    refine ⟨by decide, by decide, candidate, Disk.hasFile_of_read read, read, portableMagic, ?_, ?_⟩
    · exact List.mem_cons_self
    · exact List.prefix_rfl
  have plain : (Subject.load {} false none none (.module ⟨0⟩)).Runs Symbols.besideWorld
      (.ok ⟨0⟩) done.2 := by
    rw [← result]
    rfl
  have bare : ∀ m, Subject.module ⟨0⟩ = .module m →
      (Symbols.besideWorld.modules.get m).symbols = none := by
    rintro m ⟨⟩
    rfl
  obtain ⟨u, run, -, exact_⟩ := symbols_exact (l := {}) rfl
    ⟨"pdb".toList, by decide, by decide, by decide⟩ bare plain fun f m c same backing' cand => by
      cases same
      cases backing.symm.trans backing'
      rw [location, candidate] at cand
      cases cand
      exact ⟨true, file.regular⟩
  obtain ⟨-, found, -⟩ := exact_ ⟨0⟩ ⟨0⟩ rfl backing
  rw [location] at found
  obtain ⟨log, format, has, portable, -⟩ := found _ _ file
  obtain rfl := portable.mpr List.prefix_rfl
  exact ⟨⟨0⟩, done.2, u, plain, run, file, by cbv, has⟩

end Loading

end PEInspect
