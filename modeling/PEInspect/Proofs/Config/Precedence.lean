import Mathlib
import PEInspect.Proofs.Config.Layers
import PEInspect.Proofs.Disk.Answers
import PEInspect.Proofs.Report

/-!
# Precedence of settings

What loading a configuration makes of the layers that it finds. Each document replaces the sections
that it has and leaves the others (`get_overlay`), so after the three places have been read every
setting is as the layers have `decided` it. Loading under no override therefore gives each setting
its preferred value, except the forgotten ones, which fall back to their defaults.
-/

namespace PEInspect.Config

open Document

/-- The configuration after the section that a layer has under a name. -/
def overlaySection (c : Config) (layer : Option Table) (sec : Section) : Config :=
  match sectionIn sec layer with
  | some t => c.withSection sec t
  | none => c

/-- The configuration after the sections of a layer. -/
def overlay (c : Config) (layer : Option Table) : Config :=
  (c.overlaySection layer .loader).overlaySection layer .output

/-- A section from a table sets the settings of that section and leaves the others. -/
lemma get_withSection (c : Config) (sec : Section) (t : Table) (s : Setting) :
    (c.withSection sec t).get s =
      if s.home = sec then (t.lookup s.key).getD s.fallback else c.get s := by
  cases sec <;> cases s <;> rfl

/-- A section of a layer decides its settings and leaves the others. -/
lemma get_overlaySection (c : Config) (layer : Option Table) (sec : Section) (s : Setting) :
    (c.overlaySection layer sec).get s =
      if s.home = sec then
        ((sectionIn sec layer).map fun t => (t.lookup s.key).getD s.fallback).getD (c.get s)
      else c.get s := by
  cases e : sectionIn sec layer with
  | none => simp only [overlaySection, e, Option.map_none, Option.getD_none, ite_self]
  | some t => simp only [overlaySection, e, get_withSection, Option.map_some, Option.getD_some]

/-- A layer decides the settings whose section it has and leaves the others. -/
lemma get_overlay (c : Config) (layer : Option Table) (s : Setting) :
    (c.overlay layer).get s =
      ((sectionIn s.home layer).map fun t => (t.lookup s.key).getD s.fallback).getD (c.get s) := by
  simp only [overlay, get_overlaySection]
  cases s <;> simp [Setting.home]

/-- Layers over a configuration decide like layers in a list. -/
lemma get_overlay_decided {c : Config} {s layers} (e : c.get s = decided s layers)
    (layer : Option Table) : (c.overlay layer).get s = decided s (layer :: layers) := by
  rw [get_overlay]
  cases found : sectionIn s.home layer with
  | none => rw [decided_skip found, Option.map_none, Option.getD_none, e]
  | some t => rw [decided_here found, Option.map_some, Option.getD_some]

/-- A section from a table has no further entries. -/
lemma further_withSection {c : Config} (e : ∀ sec, c.further sec = []) (sec : Section)
    (t : Table) : ∀ sec', (c.withSection sec t).further sec' = [] := by
  intro sec'
  cases sec <;> cases sec'
  · rfl
  · exact e .output
  · exact e .loader
  · rfl

/-- Layers bring no further entries. -/
lemma further_overlay {c : Config} (e : ∀ sec, c.further sec = []) (layer : Option Table) :
    ∀ sec, (c.overlay layer).further sec = [] := by
  have step : ∀ {c : Config} sec, (∀ sec, c.further sec = []) →
      ∀ sec', (c.overlaySection layer sec).further sec' = [] := by
    intro c sec e
    cases found : sectionIn sec layer with
    | none => simpa only [overlaySection, found] using e
    | some t => simpa only [overlaySection, found] using further_withSection e sec t
  exact step .output (step .loader e)

/-- A section of a table is laid over that of a configuration. -/
lemma mergeSection_gives (c : Config) (t : Table) (sec : Section) :
    (c.mergeSection (.table t) sec).Gives (.ok (c.overlaySection (some t) sec)) := by
  refine .bind (x := t.lookup sec.name) (Report.gives_lift _) ?_
  cases found : t.lookup sec.name with
  | none =>
    rw [overlaySection, sectionIn, Option.bind_some, found]
    exact Report.gives_pure c
  | some v =>
    rw [overlaySection, sectionIn, Option.bind_some, found]
    cases v
    case table t => exact Report.gives_pure _
    -- Anything but a table is warned about and left.
    all_goals exact .bind (Report.gives_note _ _) (Report.gives_pure c)

/-- The sections of a table are laid over those of a configuration. -/
lemma merge_gives (c : Config) (t : Table) :
    (c.merge (.table t)).Gives (.ok (c.overlay (some t))) :=
  .bind (mergeSection_gives c t .loader) (mergeSection_gives _ t .output)

/-- The document in a file is laid over a configuration. -/
lemma mergeFile_gives {disk path content chars t} (c : Config)
    (rd : disk.read path = .ok content) (dc : Text.decode? content = some chars)
    (ps : Toml.read (String.ofList chars) = .ok t) :
    (c.mergeFile disk path).Gives (.ok (c.overlay (some t))) := by
  simp only [mergeFile, rd, dc, ps]
  exact .bind (merge_gives c t) (.bind (Report.gives_note _ _) (Report.gives_pure _))

/-- Taking over what stands at a place, if anything does. -/
lemma Offers.mergeIfPresent {disk path layer} (off : Offers disk path layer) (c : Config) :
    (c.mergeIfPresent disk path).Gives (.ok (c.overlay layer)) := by
  cases off with
  | absent no =>
    refine .bind (x := false) ?_ (Report.gives_pure c)
    rw [no]
    exact Report.gives_lift _
  | document rd dc ps =>
    refine .bind (x := true) ?_ (mergeFile_gives c rd dc ps)
    rw [Disk.has_of_read rd]
    exact Report.gives_lift _

/-- Taking over what stands at the explicitly named place; only the source of the configuration
tells more than the layer. -/
lemma Offers.mergeExplicit {disk name layer} (off : Offers disk (.ofString name) layer)
    (c : Config) :
    ∃ source, (c.mergeExplicit disk name).Gives (.ok { c.overlay layer with source := source }) := by
  cases off with
  | absent no =>
    refine ⟨c.source, .bind (x := false) ?_ (.bind (Report.gives_note _ _) (Report.gives_pure c))⟩
    rw [no]
    exact Report.gives_lift _
  | document rd dc ps =>
    refine ⟨some (Path.ofString name).toString, .bind (x := true) ?_
      (.bind (mergeFile_gives c rd dc ps) (Report.gives_pure _))⟩
    rw [Disk.has_of_read rd]
    exact Report.gives_lift _

/-- Without variables that are set, the environment changes nothing. -/
lemma applyEnvironment_gives {env : Environment}
    (unset : ∀ o ∈ overrides, env.lookup o.1 = none) (c : Config) :
    (c.applyEnvironment env).Gives (.ok c) := by
  -- The induction is on the overrides that are still to be applied.
  have step : ∀ os : List (String × Setting), (∀ o ∈ os, env.lookup o.1 = none) →
      Report.Gives (os.foldlM (applyOverride env) c) (.ok c) := by
    intro os
    induction os with
    | nil => exact fun _ => Report.gives_pure c
    | cons o os ih =>
      intro unset
      rw [List.foldlM_cons]
      refine .bind ?_ (ih fun o mem => unset o (List.mem_cons_of_mem _ mem))
      rw [applyOverride, unset o List.mem_cons_self]
      exact Report.gives_pure c
  exact step overrides unset

/-- Without variables that are set, loading gives each setting what the layers decide. -/
lemma load_decided {home disk env explicit given project user}
    (unset : ∀ o ∈ overrides, env.lookup o.1 = none)
    (userOff : Offers disk (userFile home) user) (projectOff : Offers disk projectFile project)
    (givenOff : OffersNamed disk explicit given) :
    ∃ c, (load home disk env explicit).Gives (.ok c) ∧ (∀ sec, c.further sec = []) ∧
      ∀ s, c.get s = decided s [given, project, user] := by
  have below : ∀ s, ((({} : Config).overlay user).overlay project).get s
      = decided s [project, user] := by
    intro s
    have start : ({} : Config).get s = decided s [] := by cases s <;> rfl
    exact get_overlay_decided (get_overlay_decided start user) project
  have bare : ∀ sec, ((({} : Config).overlay user).overlay project).further sec = [] := by
    apply further_overlay (further_overlay _ user) project
    intro sec
    cases sec <;> rfl
  cases givenOff with
  | unnamed =>
    refine ⟨_, .bind (userOff.mergeIfPresent _) (.bind (projectOff.mergeIfPresent _)
      (.bind (Report.gives_pure _) (applyEnvironment_gives unset _))), bare, fun s => ?_⟩
    exact (below s).trans (decided_skip rfl).symm
  | named off =>
    obtain ⟨source, merged⟩ := off.mergeExplicit ((({} : Config).overlay user).overlay project)
    refine ⟨_, .bind (userOff.mergeIfPresent _) (.bind (projectOff.mergeIfPresent _)
      (.bind merged (applyEnvironment_gives unset _))), ?_, fun s => ?_⟩
    · exact fun sec => further_overlay bare given sec
    -- The source of a configuration is not one of its settings.
    · rw [← get_overlay_decided (below s) given]
      cases s <;> rfl

/-- Without variables that are set, loading gives every setting its preferred value, except the
forgotten ones: they fall back to their defaults. Nothing else of a document is taken over. -/
theorem load_preferred {home disk env explicit given project user}
    (unset : ∀ o ∈ overrides, env.lookup o.1 = none)
    (userOff : Offers disk (userFile home) user) (projectOff : Offers disk projectFile project)
    (givenOff : OffersNamed disk explicit given) :
    ∃ c, (load home disk env explicit).outcome.1 = .ok c ∧ (∀ sec, c.further sec = []) ∧
      ∀ s, (c.get s = preferred s [given, project, user] ↔
          ¬ Forgotten s [given, project, user]) ∧
        (Forgotten s [given, project, user] → c.get s = s.fallback) := by
  obtain ⟨c, loaded, bare, get⟩ := load_decided unset userOff projectOff givenOff
  refine ⟨c, loaded.outcome, bare, fun s => ⟨?_, fun fg => ?_⟩⟩
  · rw [get]
    exact decided_eq_preferred_iff
  · rw [get]
    exact fg.decided

/-- The home directory of a user. -/
def userHome : Path := .ofString "/user"

/-- A disk where the user's file turns mapping off and the project's file turns symbols off. -/
def partialLayers : Disk where
  nodes := [
    (["user".toList, ".config".toList, "spyglass".toList, "spyglass.toml".toList],
      .file (Text.encode "[loader]\nuse_mapped_io=false".toList)),
    (["user".toList, ".config".toList, "spyglass".toList], .directory),
    (["user".toList, ".config".toList], .directory),
    (["user".toList], .directory),
    (["work".toList, "spyglass.toml".toList],
      .file (Text.encode "[loader]\nload_symbols=false".toList))]
  current := ["work".toList]

/-- The user's document on that disk. -/
def partialUser : Table := [("loader", .table [("use_mapped_io", .bool false)])]

/-- The project's document on that disk. -/
def partialProject : Table := [("loader", .table [("load_symbols", .bool false)])]

/-- The project's file makes the loader forget what the user's file says about mapping. -/
theorem load_forgets_user_setting :
    (∀ o ∈ overrides, List.lookup o.1 ([] : Environment) = none) ∧
      Offers partialLayers (userFile userHome) (some partialUser) ∧
      Offers partialLayers projectFile (some partialProject) ∧
      OffersNamed partialLayers none none ∧
      Forgotten .mappedIo [none, some partialProject, some partialUser] ∧
      ∃ c, (load userHome partialLayers [] none).outcome.1 = .ok c ∧ (∀ sec, c.further sec = []) ∧
        ∀ s, (c.get s = preferred s [none, some partialProject, some partialUser] ↔
            ¬ Forgotten s [none, some partialProject, some partialUser]) ∧
          (Forgotten s [none, some partialProject, some partialUser] → c.get s = s.fallback) := by
  have unset : ∀ o ∈ overrides, List.lookup o.1 ([] : Environment) = none := fun _ _ => rfl
  have userOff : Offers partialLayers (userFile userHome) (some partialUser) := by
    have rd : partialLayers.read (userFile userHome)
        = .ok (Text.encode "[loader]\nuse_mapped_io=false".toList) := by cbv
    have dc : Text.decode? (Text.encode "[loader]\nuse_mapped_io=false".toList)
        = some "[loader]\nuse_mapped_io=false".toList := by cbv
    exact .document rd dc (by cbv)
  have projectOff : Offers partialLayers projectFile (some partialProject) := by
    have rd : partialLayers.read projectFile
        = .ok (Text.encode "[loader]\nload_symbols=false".toList) := by cbv
    have dc : Text.decode? (Text.encode "[loader]\nload_symbols=false".toList)
        = some "[loader]\nload_symbols=false".toList := by cbv
    exact .document rd dc (by cbv)
  have forgotten : Forgotten .mappedIo [none, some partialProject, some partialUser] := by
    refine .deeper rfl (.omitted (t := [("load_symbols", .bool false)]) (v := .bool false) ?_ ?_ ?_ ?_)
    · rfl
    · rfl
    · rfl
    · intro same
      cases same
  exact ⟨unset, userOff, projectOff, .unnamed, forgotten,
    load_preferred unset userOff projectOff .unnamed⟩

end PEInspect.Config
