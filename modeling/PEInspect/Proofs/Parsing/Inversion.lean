import PEInspect.Proofs.World.Effects

/-!
# Parsing inversion

The relation `Parses` lists the ways in which parsing a module out of an image can end: the metadata
reader fails, it opens metadata that make no module, which are closed again, or a module is made
over the metadata. Parsing runs in one of these ways (`exists_parses`), and the image is left alone in
each of them (`Parses.images`).
-/

namespace PEInspect.Parsing

open PEInspect.Action

/-- The call of the metadata reader. -/
def readCall (w : World) (content : Bytes) : World :=
  w.called (.metadataParsed content w.metadataParser.announced)

/-- Metadata as they are taken into care. -/
def opening (w : World) (m : Metadata) : OpenMetadata :=
  ⟨m, w.metadataParser.announced, 0⟩

/-- The ways in which parsing an image with a content can end. -/
inductive Parses (image : Ref .image) (context : Option (Ref .context)) (content : Bytes)
    (w : World) : Except Refusal (Ref .module) → World → Prop where
  | raised {text} :
    w.metadataParser.parse content = .raised text →
    Parses image context content w
      (.error (failed (.raised text))) (readCall w content)
  | incomplete {m refusal} :
    w.metadataParser.parse content = .opened m →
    missing? m = some refusal →
    Parses image context content w (.error refusal)
      (((readCall w content).withMetadata (opening w m)).closedMetadata w.metadata.next)
  | complete {m} :
    w.metadataParser.parse content = .opened m →
    missing? m = none →
    Parses image context content w (.ok w.modules.next)
      (((readCall w content).withMetadata (opening w m)).withModule
        (moduleOver w.metadata.next (w.images.get image).fileName (some image) context))

/-- The metadata reader stops. -/
lemma runs_load_raised {w : World} {content text}
    (answer : w.metadataParser.parse content = .raised text) :
    (load content).Runs w (.ok (.error (failed (.raised text)))) (readCall w content) := by
  refine .bind (runs_get w) (.bind (runs_emit _ w) ?_)
  rw [answer]
  exact runs_pure _ _

/-- The metadata reader opens something that makes no module, and closes it again. -/
lemma runs_load_incomplete {w : World} {content m refusal}
    (answer : w.metadataParser.parse content = .opened m) (lack : missing? m = some refusal) :
    (load content).Runs w (.ok (.error refusal))
      (((readCall w content).withMetadata (opening w m)).closedMetadata w.metadata.next) := by
  refine .bind (runs_get w) (.bind (runs_emit _ w) ?_)
  rw [answer]
  refine .bind (runs_addMetadata _ _) ?_
  rw [lack]
  exact .bind (Modules.runs_closeMetadata _ _) (runs_pure _ _)

/-- The metadata reader opens something that makes a module, and keeps it. -/
lemma runs_load_complete {w : World} {content m}
    (answer : w.metadataParser.parse content = .opened m) (full : missing? m = none) :
    (load content).Runs w (.ok (.ok w.metadata.next))
      ((readCall w content).withMetadata (opening w m)) := by
  refine .bind (runs_get w) (.bind (runs_emit _ w) ?_)
  rw [answer]
  refine .bind (runs_addMetadata _ _) ?_
  rw [full]
  exact runs_pure _ _

/-- Parsing an image ends in one of the ways that are listed. -/
lemma exists_parses {w : World} {image content} (context : Option (Ref .context))
    (view : (Images.content image).Runs w (.ok content) w) :
    ∃ r v, (parseImage image context).Runs w (.ok r) v ∧ Parses image context content w r v := by
  cases answer : w.metadataParser.parse content with
  | raised text =>
    refine ⟨_, _, .bind view.attempt ?_, .raised answer⟩
    exact .bind (runs_load_raised answer) (runs_pure _ _)
  | opened m =>
    cases lack : missing? m with
    | some refusal =>
      refine ⟨_, _, .bind view.attempt ?_, .incomplete answer lack⟩
      exact .bind (runs_load_incomplete answer lack) (runs_pure _ _)
    | none =>
      refine ⟨_, _, .bind view.attempt ?_, .complete answer lack⟩
      exact .bind (runs_load_complete answer lack)
        (.bind (runs_image _ _) (.bind (runs_addModule _ _) (runs_pure _ _)))

/-- Parsing makes calls, metadata and modules, and leaves everything else alone. -/
lemma Parses.normal {image context content w r v} (prs : Parses image context content w r v) :
    ∃ trace metadata modules,
      v = { w with trace := trace, metadata := metadata, modules := modules } := by
  cases prs <;> exact ⟨_, _, _, rfl⟩

/-- Parsing leaves the images alone. -/
lemma Parses.images {image context content w r v} (prs : Parses image context content w r v) :
    v.images = w.images := by
  obtain ⟨_, _, _, rfl⟩ := prs.normal
  rfl

/-- A parsed module stands at the path of its image, owns it, and has no symbols. -/
lemma Parses.module {image context content w m v} (prs : Parses image context content w (.ok m) v) :
    v.modules.get m =
      moduleOver w.metadata.next (w.images.get image).fileName (some image) context := by
  cases prs with
  | complete answer full => exact World.get_withModule _ _

/-- Only tables with a module row lack nothing. -/
lemma missing?_eq_none {m} :
    missing? m = none ↔ ∃ t, m = .tables t ∧ t.modules.rows ≠ [] := by
  cases m with
  | headerless => exact ⟨nofun, nofun⟩
  | tableless => exact ⟨nofun, nofun⟩
  | tables t =>
    cases rows : t.modules.rows <;> simp [missing?, rows]

end PEInspect.Parsing
