import Mathlib.Data.List.Forall2
import PEInspect.Proofs.Config.Environment
import PEInspect.Proofs.Disk.Clearing

/-!
# Unusable configuration files

A configuration file that is malformed is passed over, so the settings are the ones that would be
loaded if it were absent. Loading still stops at some files: at one that is not UTF-8, and at one
with a number of too many digits or with too much nesting. With the places of configuration files
read in their order, loading fails exactly if there is a first place at which it stops, and otherwise
it comes to the settings of a disk that is cleared of all files without a document
(`load_as_if_absent`).
-/

namespace PEInspect.Config

open Document

/-- Whether a content holds no document, because it is not UTF-8 or because its text is malformed. -/
def lacksDocument (content : Bytes) : Bool :=
  match Text.decode? content with
  | none => true
  | some chars =>
    match Toml.read (String.ofList chars) with
    | .error .malformed => true
    | _ => false

/-- The places of configuration files, in the order in which they are read. -/
def places (home : Path) : Option String → List Path
  | none => [userFile home, projectFile]
  | some name => [userFile home, projectFile, .ofString name]

/-- The files that loading passes over. -/
inductive PassedOver (disk : Disk) (path : Path) : Prop where
  | unreadable {e p} :
    disk.has path = .ok true →
    disk.read path = .error (.system e p) →
    PassedOver disk path
  | malformed {content chars} :
    disk.read path = .ok content →
    Text.decode? content = some chars →
    Toml.read (String.ofList chars) = .error .malformed →
    PassedOver disk path

/-- What loading takes from a place at which it does not stop. -/
inductive Yields (disk : Disk) (path : Path) : Option Table → Prop where
  | offered {layer} : Offers disk path layer → Yields disk path layer
  | passedOver : PassedOver disk path → Yields disk path none

/-- The ways in which loading stops at a place. -/
inductive Stops (disk : Disk) (path : Path) : Failure → Prop where
  | unanswered {f} : disk.has path = .error f → Stops disk path f
  | unencoded {content} :
    disk.read path = .ok content →
    Text.decode? content = none →
    Stops disk path .notUtf8
  | unfit {content chars defect} :
    disk.read path = .ok content →
    Text.decode? content = some chars →
    Toml.read (String.ofList chars) = .error defect →
    defect ≠ .malformed →
    Stops disk path (.ofDefect .malformedDocument defect)

/-- The failure at the first of some places at which loading stops. -/
inductive FirstStop (disk : Disk) : List Path → Failure → Prop where
  | here {path rest f} : Stops disk path f → FirstStop disk (path :: rest) f
  | later {path rest layer f} :
    Yields disk path layer →
    FirstStop disk rest f →
    FirstStop disk (path :: rest) f

section Place

variable {disk disk' : Disk} {path : Path}

/-- Loading takes something from a place, or stops there. -/
lemma yields_or_stops (disk : Disk) (path : Path) :
    (∃ layer, Yields disk path layer) ∨ ∃ f, Stops disk path f := by
  cases answer : disk.has path with
  | error f => exact .inr ⟨f, .unanswered answer⟩
  | ok there =>
    cases there with
    | false => exact .inl ⟨none, .offered (.absent answer)⟩
    | true =>
      cases rd : disk.read path with
      | error f =>
        obtain ⟨e, p, rfl⟩ := Disk.system_of_read_error answer rd
        exact .inl ⟨none, .passedOver (.unreadable answer rd)⟩
      | ok content =>
        cases dc : Text.decode? content with
        | none => exact .inr ⟨_, .unencoded rd dc⟩
        | some chars =>
          cases ps : Toml.read (String.ofList chars) with
          | ok t => exact .inl ⟨some t, .offered (.document rd dc ps)⟩
          | error defect =>
            by_cases plain : defect = .malformed
            · subst plain
              exact .inl ⟨none, .passedOver (.malformed rd dc ps)⟩
            · exact .inr ⟨_, .unfit rd dc ps plain⟩

/-- Loading takes something from every place, or there is a first one at which it stops. -/
lemma layers_or_firstStop (disk : Disk) (paths : List Path) :
    (∃ layers, List.Forall₂ (Yields disk) paths layers) ∨ ∃ f, FirstStop disk paths f := by
  induction paths with
  | nil => exact .inl ⟨[], .nil⟩
  | cons path rest ih =>
    obtain ⟨layer, yields⟩ | ⟨f, stops⟩ := yields_or_stops disk path
    · obtain ⟨layers, below⟩ | ⟨f, stop⟩ := ih
      · exact .inl ⟨layer :: layers, .cons yields below⟩
      · exact .inr ⟨f, .later yields stop⟩
    · exact .inr ⟨f, .here stops⟩

/-- A place offers the same on a disk that is cleared of files without a document. -/
lemma offers_cleared {layer} (off : Offers disk path layer)
    (cleared : Disk.ClearedAt lacksDocument disk disk' path) : Offers disk' path layer := by
  cases off with
  | absent no =>
    obtain ⟨same, -⟩ := cleared.kept fun content rd => by
      rw [Disk.has_of_read rd] at no
      cases no
    exact .absent (same.trans no)
  | @document content chars t rd dc ps =>
    have holds : lacksDocument content = false := by
      rw [lacksDocument, dc]
      dsimp only
      rw [ps]
    obtain ⟨-, read⟩ := cleared.kept fun content' rd' => by
      rw [rd] at rd'
      cases rd'
      exact holds
    exact .document ((read (Disk.has_of_read rd)).trans rd) dc ps

/-- A file that is passed over yields as little when it is gone. -/
lemma PassedOver.cleared (passed : PassedOver disk path)
    (cleared : Disk.ClearedAt lacksDocument disk disk' path) : Yields disk' path none := by
  cases passed with
  | unreadable there rd =>
    obtain ⟨same, read⟩ := cleared.kept fun content rd' => by
      rw [rd] at rd'
      cases rd'
    exact .passedOver (.unreadable (same.trans there) ((read there).trans rd))
  | malformed rd dc ps =>
    refine .offered (.absent (cleared.gone rd ?_))
    rw [lacksDocument, dc]
    dsimp only
    rw [ps]

/-- On the cleared disk, a place yields what it yielded before. -/
lemma Yields.cleared {layer} (yields : Yields disk path layer)
    (cleared : Disk.ClearedAt lacksDocument disk disk' path) : Yields disk' path layer := by
  cases yields with
  | offered off => exact .offered (offers_cleared off cleared)
  | passedOver passed => exact passed.cleared cleared

/-- On the cleared disk, the places yield what they yielded before. -/
lemma layers_cleared {paths layers} (all : List.Forall₂ (Yields disk) paths layers)
    (cleared : ∀ path ∈ paths, Disk.ClearedAt lacksDocument disk disk' path) :
    List.Forall₂ (Yields disk') paths layers := by
  induction all with
  | nil => exact .nil
  | cons yields _ ih =>
    refine .cons (yields.cleared (cleared _ List.mem_cons_self)) (ih ?_)
    intro path mem
    exact cleared path (List.mem_cons_of_mem _ mem)

/-! ## Merging -/

/-- A file that is there is merged. -/
lemma mergeIfPresent_gives {c : Config} {r} (there : disk.has path = .ok true)
    (merged : (c.mergeFile disk path).Gives r) : (c.mergeIfPresent disk path).Gives r := by
  refine .bind (x := true) ?_ merged
  rw [there]
  exact Report.gives_lift _

/-- What is passed over is there. -/
lemma PassedOver.there (passed : PassedOver disk path) : disk.has path = .ok true := by
  cases passed with
  | unreadable there => exact there
  | malformed rd => exact Disk.has_of_read rd

/-- A file that is passed over leaves the configuration as it was. -/
lemma PassedOver.mergeFile (passed : PassedOver disk path) (c : Config) :
    (c.mergeFile disk path).Gives (.ok c) := by
  cases passed with
  | unreadable there rd =>
    simp only [Config.mergeFile, rd]
    exact .bind (Report.gives_note _ _) (Report.gives_pure c)
  | malformed rd dc ps =>
    simp only [Config.mergeFile, rd, dc, ps]
    exact .bind (Report.gives_note _ _) (Report.gives_pure c)

/-- What a place yields is laid over a configuration. -/
lemma Yields.mergeIfPresent {layer} (yields : Yields disk path layer) (c : Config) :
    (c.mergeIfPresent disk path).Gives (.ok (c.overlay layer)) := by
  cases yields with
  | offered off => exact off.mergeIfPresent c
  | passedOver passed => exact mergeIfPresent_gives passed.there (passed.mergeFile c)

/-- Only the source of the configuration tells more than the layer of an explicitly named place. -/
lemma Yields.mergeExplicit {name layer} (yields : Yields disk (.ofString name) layer) (c : Config) :
    ∃ source, (c.mergeExplicit disk name).Gives (.ok { c.overlay layer with source := source }) := by
  cases yields with
  | offered off => exact off.mergeExplicit c
  | passedOver passed =>
    refine ⟨_, .bind (x := true) ?_ (.bind (passed.mergeFile c) (Report.gives_pure _))⟩
    rw [passed.there]
    exact Report.gives_lift _

/-- Loading stops at a place because it gets no answer about it or because of the file there. -/
lemma Stops.merges {f} (stops : Stops disk path f) :
    disk.has path = .error f ∨
      disk.has path = .ok true ∧ ∀ c : Config, (c.mergeFile disk path).Gives (.error f) := by
  cases stops with
  | unanswered stop => exact .inl stop
  | unencoded rd dc =>
    refine .inr ⟨Disk.has_of_read rd, fun c => ?_⟩
    simp only [mergeFile, rd, dc]
    exact fun _ => rfl
  | @unfit content chars defect rd dc ps other =>
    refine .inr ⟨Disk.has_of_read rd, fun c => ?_⟩
    simp only [mergeFile, rd, dc, ps]
    cases defect with
    | malformed => exact absurd rfl other
    | longNumber | deepNesting => exact fun _ => rfl

/-- A place at which loading stops makes merging fail. -/
lemma Stops.mergeIfPresent {f} (stops : Stops disk path f) (c : Config) :
    (c.mergeIfPresent disk path).Gives (.error f) := by
  obtain stop | ⟨there, stopped⟩ := stops.merges
  · refine .bind_error ?_
    rw [stop]
    exact Report.gives_lift _
  · exact mergeIfPresent_gives there (stopped c)

/-- A file that is asked for by name makes merging fail in the same way. -/
lemma Stops.mergeExplicit {name f} (stops : Stops disk (.ofString name) f) (c : Config) :
    (c.mergeExplicit disk name).Gives (.error f) := by
  obtain stop | ⟨there, stopped⟩ := stops.merges
  · refine .bind_error ?_
    rw [stop]
    exact Report.gives_lift _
  · refine .bind (x := true) ?_ (.bind_error (stopped c))
    rw [there]
    exact Report.gives_lift _

end Place

/-! ## Loading -/

section Load

variable {home : Path} {disk : Disk} {explicit : Option String} (env : Environment)

/-- If loading does not stop at a place, the layers that the places yield are gathered before any
environment is applied. -/
lemma exists_gathered {layers} (all : List.Forall₂ (Yields disk) (places home explicit) layers) :
    ∃ base, (∀ env, (load home disk env explicit).Gives (.ok (overridden env base))) ∧
      ∀ s, base.get s = (layers.foldl overlay {}).get s := by
  cases explicit with
  | none =>
    obtain _ | ⟨user, _ | ⟨project, _ | _⟩⟩ := all
    exact ⟨_, fun env => .bind (user.mergeIfPresent _) (.bind (project.mergeIfPresent _)
      (.bind (Report.gives_pure _) (overridden_gives _))), fun s => rfl⟩
  | some name =>
    obtain _ | ⟨user, _ | ⟨project, _ | ⟨given, _ | _⟩⟩⟩ := all
    obtain ⟨source, merged⟩ := given.mergeExplicit _
    refine ⟨_, fun env => .bind (user.mergeIfPresent _) (.bind (project.mergeIfPresent _)
      (.bind merged (overridden_gives _))), fun s => ?_⟩
    -- The source of the configuration is no setting.
    cases s <;> rfl

/-- If loading does not stop at a place, it comes to the layers that the places yield. -/
lemma load_of_layers {layers} (all : List.Forall₂ (Yields disk) (places home explicit) layers) :
    ∃ c, (load home disk env explicit).Gives (.ok c) ∧
      ∀ s, c.get s = (overridden env (layers.foldl overlay {})).get s := by
  obtain ⟨base, loaded, get⟩ := exists_gathered all
  refine ⟨_, loaded env, fun s => ?_⟩
  rw [get_overridden, get_overridden, get]

/-- Loading fails as the first place does at which it stops. -/
lemma load_of_firstStop {f} (stop : FirstStop disk (places home explicit) f) :
    (load home disk env explicit).Gives (.error f) := by
  cases explicit with
  | none =>
    obtain user | ⟨user, project | ⟨project, _ | _⟩⟩ := stop
    · exact .bind_error (user.mergeIfPresent _)
    · exact .bind (user.mergeIfPresent _) (.bind_error (project.mergeIfPresent _))
  | some name =>
    obtain user | ⟨user, project | ⟨project, given | ⟨_, _ | _⟩⟩⟩ := stop
    · exact .bind_error (user.mergeIfPresent _)
    · exact .bind (user.mergeIfPresent _) (.bind_error (project.mergeIfPresent _))
    · exact .bind (user.mergeIfPresent _) (.bind (project.mergeIfPresent _)
        (.bind_error (given.mergeExplicit _)))

/-- Loading fails with the failure at the first place at which it stops, and with no other. -/
lemma load_error_iff {f} :
    (load home disk env explicit).outcome.1 = .error f ↔
      FirstStop disk (places home explicit) f := by
  constructor
  · intro failed
    obtain ⟨layers, all⟩ | ⟨f', stop⟩ := layers_or_firstStop disk (places home explicit)
    · obtain ⟨c, loaded, -⟩ := load_of_layers env all
      cases loaded.outcome.symm.trans failed
    · have same : Except.error f' = Except.error f :=
        (load_of_firstStop env stop).outcome.symm.trans failed
      cases same
      exact stop
  · intro stop
    exact (load_of_firstStop env stop).outcome

end Load

/-- Loading fails exactly if there is a first place at which it stops. Otherwise it ends with the
settings that are loaded from a disk on which the files without a document are absent, and there is
such a disk. -/
theorem load_as_if_absent (home : Path) (disk : Disk) (env : Environment)
    (explicit : Option String) :
    (∀ f, (load home disk env explicit).outcome.1 = .error f ↔
        FirstStop disk (places home explicit) f) ∧
      (∀ disk', (∀ path ∈ places home explicit, Disk.ClearedAt lacksDocument disk disk' path) →
        (¬ ∃ f, FirstStop disk (places home explicit) f) →
        ∃ c c', (load home disk env explicit).outcome.1 = .ok c ∧
          (load home disk' env explicit).outcome.1 = .ok c' ∧ ∀ s, c.get s = c'.get s) ∧
      ∃ disk', ∀ path ∈ places home explicit, Disk.ClearedAt lacksDocument disk disk' path := by
  refine ⟨fun f => load_error_iff env, fun disk' cleared steady => ?_,
    disk.without lacksDocument, fun path _ => Disk.cleared_without disk lacksDocument path⟩
  obtain ⟨layers, all⟩ | stop := layers_or_firstStop disk (places home explicit)
  · obtain ⟨c, loaded, get⟩ := load_of_layers env all
    obtain ⟨c', loaded', get'⟩ := load_of_layers env (layers_cleared all cleared)
    refine ⟨c, c', loaded.outcome, loaded'.outcome, fun s => ?_⟩
    rw [get, get']
  · exact absurd stop steady

/-- A disk with one configuration file, that of the project. -/
def projectDisk (content : Bytes) : Disk where
  nodes := [(["work".toList, "spyglass.toml".toList], .file content)]
  current := ["work".toList]

/-- Loading stops at a file that is not UTF-8 and passes over a malformed one. -/
theorem load_stops_at_unencoded :
    (load userHome (projectDisk [0xFF]) [] none).outcome.1 = .error .notUtf8 ∧
      (¬ ∃ f, FirstStop (projectDisk [0x3D]) (places userHome none) f) ∧
      ∃ c c', (load userHome (projectDisk [0x3D]) [] none).outcome.1 = .ok c ∧
        (load userHome ((projectDisk [0x3D]).without lacksDocument) [] none).outcome.1 = .ok c' ∧
        ∀ s, c.get s = c'.get s := by
  have absent (content : Bytes) : Yields (projectDisk content) (userFile userHome) none :=
    .offered (.absent (by cbv))
  have stop : FirstStop (projectDisk [0xFF]) (places userHome none) .notUtf8 := by
    have rd : (projectDisk [0xFF]).read projectFile = .ok [0xFF] := by cbv
    exact .later (absent _) (.here (.unencoded rd (by cbv)))
  have malformed : Yields (projectDisk [0x3D]) projectFile none := by
    have rd : (projectDisk [0x3D]).read projectFile = .ok [0x3D] := by cbv
    have dc : Text.decode? [0x3D] = some ['='] := by cbv
    exact .passedOver (.malformed rd dc (by cbv))
  have all : List.Forall₂ (Yields (projectDisk [0x3D])) (places userHome none) [none, none] :=
    .cons (absent _) (.cons malformed .nil)
  have steady : ¬ ∃ f, FirstStop (projectDisk [0x3D]) (places userHome none) f := by
    rintro ⟨f, stop⟩
    have failed := ((load_as_if_absent userHome (projectDisk [0x3D]) [] none).1 f).mpr stop
    obtain ⟨c, loaded, -⟩ := load_of_layers [] all
    cases loaded.outcome.symm.trans failed
  obtain ⟨fails, -, -⟩ := load_as_if_absent userHome (projectDisk [0xFF]) [] none
  obtain ⟨-, agrees, -⟩ := load_as_if_absent userHome (projectDisk [0x3D]) [] none
  refine ⟨(fails _).mpr stop, steady, agrees _ (fun path _ => ?_) steady⟩
  exact Disk.cleared_without _ lacksDocument path

end PEInspect.Config
