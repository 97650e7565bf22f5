import PEInspect.Config.Checks
import PEInspect.Proofs.Config.Unusable
import PEInspect.Proofs.Symbols.Candidate

/-!
# Validation

What the check of a configuration promises, and what it asks for. A configuration without warnings is
safe to use: every location has the candidate that the rule of names gives it, and the log is set to
the level that is named (`usable_of_clean`). The check itself only comes to an end on texts. Documents
hold other values as well and loading takes them over, so the check of a loaded configuration fails
exactly if the extension or the level that its layers settle is no text (`validate_loaded`).
-/

namespace PEInspect.Config

open Document

def IsText (v : Value) : Prop :=
  ∃ s, v = .text s

section Check

variable {c : Config} {v : Value} {extension level : String}

/-- A value that is no text is missed as a member of its kind. -/
lemma textOf_of_other (other : ¬ IsText v) (member : String) :
    textOf v member = .error (.noMember v.qualifiedKind member) := by
  cases v
  case text s => exact absurd ⟨s, rfl⟩ other
  all_goals rfl

/-- Validating asks both settings for their texts, the extension first. -/
lemma validate_eq (c : Config) : c.validate = (do
    let extension ← textOf (c.get .symbolExtension) "startswith"
    let level ← textOf (c.get .logLevel) "upper"
    return extensionWarnings extension ++ levelWarnings level) :=
  rfl

/-- Two texts are validated by their own warnings. -/
lemma validate_texts (text : c.get .symbolExtension = .text extension)
    (text' : c.get .logLevel = .text level) :
    c.validate = .ok (extensionWarnings extension ++ levelWarnings level) := by
  rw [validate_eq, text, text']
  rfl

/-- An extension that is no text stops the validation. -/
lemma validate_extension (other : ¬ IsText (c.get .symbolExtension)) :
    c.validate = .error (.noMember (c.get .symbolExtension).qualifiedKind "startswith") := by
  rw [validate_eq, textOf_of_other other]
  rfl

/-- The extension is asked for a text before the level is. -/
lemma validate_level (text : IsText (c.get .symbolExtension))
    (other : ¬ IsText (c.get .logLevel)) :
    c.validate = .error (.noMember (c.get .logLevel).qualifiedKind "upper") := by
  obtain ⟨extension, text⟩ := text
  rw [validate_eq, text, textOf_of_other other]
  rfl

/-- The check ends with warnings exactly if both settings are texts. -/
lemma validate_ok_iff :
    (∃ warnings, c.validate = .ok warnings) ↔
      IsText (c.get .symbolExtension) ∧ IsText (c.get .logLevel) := by
  constructor
  · rintro ⟨warnings, ends⟩
    by_cases text : IsText (c.get .symbolExtension)
    · by_cases text' : IsText (c.get .logLevel)
      · exact ⟨text, text'⟩
      · cases (validate_level text text').symm.trans ends
    · cases (validate_extension text).symm.trans ends
  · rintro ⟨⟨_, text⟩, _, text'⟩
    exact ⟨_, validate_texts text text'⟩

/-- The check fails at the first of both settings that is no text. -/
lemma validate_error_iff {f} :
    c.validate = .error f ↔
      (¬ IsText (c.get .symbolExtension) ∧
        f = .noMember (c.get .symbolExtension).qualifiedKind "startswith") ∨
      (IsText (c.get .symbolExtension) ∧ ¬ IsText (c.get .logLevel) ∧
        f = .noMember (c.get .logLevel).qualifiedKind "upper") := by
  constructor
  · intro ends
    by_cases text : IsText (c.get .symbolExtension)
    · by_cases text' : IsText (c.get .logLevel)
      · obtain ⟨warnings, done⟩ := validate_ok_iff.mpr ⟨text, text'⟩
        cases done.symm.trans ends
      · cases (validate_level text text').symm.trans ends
        exact .inr ⟨text, text', rfl⟩
    · cases (validate_extension text).symm.trans ends
      exact .inl ⟨text, rfl⟩
  · rintro (⟨other, rfl⟩ | ⟨text, other, rfl⟩)
    · exact validate_extension other
    · exact validate_level text other

/-- Setting up the log asks for the text of its level first. -/
lemma setupLogging_eq (c : Config) (setup : LogSetup) : c.setupLogging setup = (do
    let name ← textOf (c.get .logLevel) "upper"
    let level ← levelNumber name
    return ⟨if (c.get .verbose).isTruthy then 10 else level, setup.handlers + 1⟩) :=
  rfl

/-- A level with a name and a number sets up the log, unless it is to be verbose. -/
lemma setupLogging_text {n : Nat} (text : c.get .logLevel = .text level)
    (number : levelNumber level = .ok n) (setup : LogSetup) :
    c.setupLogging setup =
      .ok ⟨if (c.get .verbose).isTruthy then 10 else n, setup.handlers + 1⟩ := by
  rw [setupLogging_eq, text, textOf]
  dsimp only [bind, Except.bind]
  rw [number]
  rfl

end Check

/-! ## Without warnings -/

/-- The levels of the log and their numbers. -/
def namedLevels : List (String × Nat) :=
  [("DEBUG", 10), ("INFO", 20), ("WARNING", 30), ("ERROR", 40), ("CRITICAL", 50)]

/-- A level without warnings is one of the named ones, whatever its case is. -/
lemma levelNumber_of_valid {level : String} (valid : levelWarnings level = []) :
    ∃ n, (Text.capitals level, n) ∈ namedLevels ∧ levelNumber level = .ok n := by
  have listed : Text.capitals level ∈ logLevels := by
    by_contra unlisted
    rw [levelWarnings, if_neg (by simpa using unlisted)] at valid
    cases valid
  rw [levelNumber]
  simp only [logLevels, List.mem_cons, List.not_mem_nil, or_false] at listed
  obtain e | e | e | e | e := listed <;>
  · rw [e]
    refine ⟨_, ?_, rfl⟩
    decide

/-- A configuration that the check passes without warnings is safe to use. Looking for the symbol file
of a location does not fail: a location without a last name has none, and any other one has the file
beside it whose name is its stem and the extension. Setting up the log does not fail either. -/
theorem usable_of_clean {c : Config} (clean : c.validate = .ok []) :
    ∃ extension level : String,
      c.get .symbolExtension = .text extension ∧ c.get .logLevel = .text level ∧
      (∀ location : String, ∃ found,
        Symbols.candidateFor location (c.get .symbolExtension) = .ok found ∧
        (found = none ↔ (Path.ofString location).name = []) ∧
        ∀ p, found = some p →
          Disk.parent p = Disk.parent (.ofString location) ∧
          p.name = (Path.ofString location).stem ++ extension.toList) ∧
      ∀ setup : LogSetup, ∃ n, c.setupLogging setup = .ok ⟨n, setup.handlers + 1⟩ ∧
        (if (c.get .verbose).isTruthy then "DEBUG" else Text.capitals level, n) ∈ namedLevels := by
  obtain ⟨⟨extension, text⟩, level, text'⟩ := validate_ok_iff.mp ⟨_, clean⟩
  rw [validate_texts text text', Except.ok.injEq, List.append_eq_nil_iff] at clean
  obtain ⟨shaped, known⟩ := clean
  refine ⟨extension, level, text, text', fun location => ?_, fun setup => ?_⟩
  · have found := Symbols.candidate_eq location (Symbols.makesNames_of_valid shaped)
    rw [text, Symbols.candidateFor, found]
    by_cases bare : (Path.ofString location).name = []
    · rw [if_pos bare]
      refine ⟨none, rfl, iff_of_true rfl bare, fun p found => ?_⟩
      cases found
    · rw [if_neg bare]
      refine ⟨_, rfl, iff_of_false (Option.some_ne_none _) bare, fun p found => ?_⟩
      cases found
      exact ⟨Symbols.parent_beside _ _, Symbols.name_beside _ _⟩
  · obtain ⟨n, named, number⟩ := levelNumber_of_valid known
    refine ⟨_, setupLogging_text text' number setup, ?_⟩
    split
    · decide
    · exact named

/-- An extension with two dots, and a level that has two letters beyond ASCII. -/
def unusualSettings : Config :=
  (({} : Config).set .symbolExtension (.text ".tar.pdb")).set .logLevel (.text "crıtıcal")

/-- Unusual settings without warnings are usable. -/
theorem usable_of_clean_unusual :
    unusualSettings.validate = .ok [] ∧
      (∃ p, Symbols.candidateFor "lib/Lib.Core.dll" (.text ".tar.pdb") = .ok (some p) ∧
        p.name = "Lib.Core.tar.pdb".toList) ∧
      ∃ n, unusualSettings.setupLogging {} = .ok ⟨n, 1⟩ ∧ ("CRITICAL", n) ∈ namedLevels := by
  have clean : unusualSettings.validate = .ok [] := rfl
  obtain ⟨extension, level, text, text', candidates, levels⟩ := usable_of_clean clean
  cases text
  cases text'
  refine ⟨clean, ?_, levels {}⟩
  obtain ⟨found, asked, bare, beside⟩ := candidates "lib/Lib.Core.dll"
  cases found with
  | none => exact absurd (bare.mp rfl) (by decide)
  | some p => exact ⟨p, asked, (beside p rfl).2.trans (by decide)⟩

/-! ## Whatever was loaded -/

/-- Where a configuration comes from: the places of configuration files on a disk with the variables
over them, or a JSON text. -/
inductive Source where
  | files (home : Path) (disk : Disk) (env : Environment) (explicit : Option String)
  | json (text : String)

namespace Source

def load : Source → Report Config
  | .files home disk env explicit => Config.load home disk env explicit
  | .json text => ofJson text

def environment : Source → Environment
  | .files _ _ env _ => env
  | .json _ => []

end Source

/-- The table that a document is, since sections stand in no other one. -/
def tableOf : Value → Option Table
  | .table t => some t
  | _ => none

/-- The layers of a source, the highest first. -/
inductive Source.Layered : Source → List (Option Table) → Prop where
  | files {home disk env explicit layers} :
    List.Forall₂ (Yields disk) (places home explicit) layers →
    Layered (.files home disk env explicit) layers.reverse
  | json {text document} :
    Json.read text = .ok document →
    Layered (.json text) [tableOf document]

/-- The value that the layers of a source and its variables settle on. -/
def Source.settled (source : Source) (layers : List (Option Table)) (s : Setting) : Value :=
  ((source.environment.lookup (variableOf s)).map (overrideValue s)).getD (decided s layers)

/-- A document that is no table has no section, or the attempt to take one from it ends the merge. -/
lemma mergeSection_gives_or_fails (c : Config) (document : Value) (sec : Section) :
    (c.mergeSection document sec).Gives (.ok (c.overlaySection (tableOf document) sec)) ∨
      ∃ f, (c.mergeSection document sec).Gives (.error f) := by
  have missing (e : sectionOf document sec.name = .ok none) :
      (c.mergeSection document sec).Gives (.ok c) := by
    refine .bind (x := none) ?_ (Report.gives_pure c)
    rw [e]
    exact Report.gives_lift _
  have failing {f} (e : sectionOf document sec.name = .error f) :
      ∃ f, (c.mergeSection document sec).Gives (.error f) := by
    refine ⟨f, .bind_error ?_⟩
    rw [e]
    exact Report.gives_lift _
  cases document with
  | table t => exact .inl (mergeSection_gives c t sec)
  | text s =>
    cases inside : Text.occursIn sec.name.toList s.toList with
    | true => exact .inr (failing (by rw [sectionOf, inside, if_pos rfl]))
    | false => exact .inl (missing (by rw [sectionOf, inside, if_neg Bool.false_ne_true]))
  | list items =>
    cases inside : items.any (·.isText sec.name) with
    | true => exact .inr (failing (by rw [sectionOf, inside, if_pos rfl]))
    | false => exact .inl (missing (by rw [sectionOf, inside, if_neg Bool.false_ne_true]))
  | null | bool | int | float | date | time | moment => exact .inr (failing rfl)

/-- Merging a document lays it over a configuration, or fails. -/
lemma merge_gives_or_fails (c : Config) (document : Value) :
    (c.merge document).Gives (.ok (c.overlay (tableOf document))) ∨
      ∃ f, (c.merge document).Gives (.error f) := by
  obtain first | ⟨f, first⟩ := mergeSection_gives_or_fails c document .loader
  · obtain second | ⟨f, second⟩ := mergeSection_gives_or_fails _ document .output
    · exact .inl (.bind first second)
    · exact .inr ⟨f, .bind first second⟩
  · exact .inr ⟨f, .bind_error first⟩

/-- A setting that nobody sets has its fallback. -/
lemma get_default (s : Setting) : ({} : Config).get s = decided s [] := by
  cases s <;> rfl

/-- Layers one over the other decide as they do in a list that has the highest first. -/
lemma get_foldl_overlay (layers : List (Option Table)) (s : Setting) :
    (layers.foldl overlay {}).get s = decided s layers.reverse := by
  induction layers using List.reverseRecOn with
  | nil => exact get_default s
  | append_singleton layers layer ih =>
    rw [List.foldl_concat, List.reverse_concat]
    exact get_overlay_decided ih layer

/-- A source that loads has layers, and they settle every setting. -/
lemma Source.exists_layered {source : Source} {c} (loaded : source.load.outcome.1 = .ok c) :
    ∃ layers, source.Layered layers ∧ ∀ s, c.get s = source.settled layers s := by
  cases source with
  | files home disk env explicit =>
    obtain ⟨layers, all⟩ | ⟨f, stop⟩ := layers_or_firstStop disk (places home explicit)
    · obtain ⟨c', gives, get⟩ := load_of_layers env all
      cases gives.outcome.symm.trans loaded
      refine ⟨_, .files all, fun s => ?_⟩
      rw [get, get_overridden, get_foldl_overlay]
      rfl
    · cases (load_of_firstStop env stop).outcome.symm.trans loaded
  | json text =>
    cases rd : Json.read text with
    | error defect =>
      rw [load, ofJson, rd] at loaded
      cases loaded
    | ok document =>
      rw [load, ofJson, rd] at loaded
      obtain merged | ⟨f, merged⟩ := merge_gives_or_fails {} document
      · cases merged.outcome.symm.trans loaded
        exact ⟨_, .json rd, fun s => get_overlay_decided (get_default s) _⟩
      · cases merged.outcome.symm.trans loaded

/-- Loading settles each setting on a value of whatever kind its layers have. The check of the
configuration ends with warnings exactly if the extension and the level are settled on texts, and
otherwise fails at the first of them that is no text. -/
theorem validate_loaded {source : Source} {c} (loaded : source.load.outcome.1 = .ok c) :
    ∃ layers, source.Layered layers ∧ (∀ s, c.get s = source.settled layers s) ∧
      let extension := source.settled layers .symbolExtension
      let level := source.settled layers .logLevel
      ((∃ warnings, c.validate = .ok warnings) ↔ IsText extension ∧ IsText level) ∧
      ∀ f, c.validate = .error f ↔
        (¬ IsText extension ∧ f = .noMember extension.qualifiedKind "startswith") ∨
        (IsText extension ∧ ¬ IsText level ∧ f = .noMember level.qualifiedKind "upper") := by
  obtain ⟨layers, layered, get⟩ := Source.exists_layered loaded
  refine ⟨layers, layered, get, ?_⟩
  rw [← get, ← get]
  exact ⟨validate_ok_iff, fun f => validate_error_iff⟩

/-- A document of a project that gives the level as a number. -/
def numberedLevel : Bytes :=
  Text.encode "[output]\nlog_level = 5".toList

/-- A number for the level is loaded, and the check fails at it. -/
theorem validate_loaded_number :
    ∃ c, (Source.files userHome (projectDisk numberedLevel) [] none).load.outcome.1 = .ok c ∧
      c.get .logLevel = .int 5 ∧ c.validate = .error (.noMember "int" "upper") := by
  have absent : Yields (projectDisk numberedLevel) (userFile userHome) none :=
    .offered (.absent (by cbv))
  have numbered : Yields (projectDisk numberedLevel) projectFile
      (some [("output", .table [("log_level", .int 5)])]) := by
    have rd : (projectDisk numberedLevel).read projectFile = .ok numberedLevel := by cbv
    have dc : Text.decode? numberedLevel = some "[output]\nlog_level = 5".toList := by cbv
    exact .offered (.document rd dc (by cbv))
  have all : List.Forall₂ (Yields (projectDisk numberedLevel)) (places userHome none)
      [none, some [("output", .table [("log_level", .int 5)])]] :=
    .cons absent (.cons numbered .nil)
  obtain ⟨c, gives, get⟩ := load_of_layers [] all
  have loaded :
      (Source.files userHome (projectDisk numberedLevel) [] none).load.outcome.1 = .ok c :=
    gives.outcome
  have level : c.get .logLevel = .int 5 := get .logLevel
  have extension : c.get .symbolExtension = .text ".pdb" := get .symbolExtension
  obtain ⟨layers, -, settled, -, fails⟩ := validate_loaded loaded
  refine ⟨c, loaded, level, (fails _).mpr (.inr ⟨?_, ?_, ?_⟩)⟩
  · exact ⟨_, (settled _).symm.trans extension⟩
  · rintro ⟨s, text⟩
    cases level.symm.trans ((settled .logLevel).trans text)
  · rw [← settled, level]
    rfl

end PEInspect.Config
