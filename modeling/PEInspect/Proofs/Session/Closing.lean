import PEInspect.Proofs.Session.Turns

/-!
# Closing in sessions

The commands that close a file, and the end of the steps inside one, change the world of a session as
closing the file does; the steps inside a file have no say in it.
-/

namespace PEInspect

namespace Turn

/-- Closing a file by a command, under either name, changes the world as closing the file does. -/
lemma close_world {s : Session} {name : String} {f : Ref .file} (disposing : Bool)
    (named : s.names.objects.lookup name = some (.file f)) :
    ((close name disposing).outcome s).2.world = ((Files.close f).outcome s.world).2 := by
  rw [close, outcome_bind, runs_object named]
  simp only
  rw [outcome_bind]
  have closed : outcome (act (Files.close f)) s
      = (((Files.close f).outcome s.world).1.mapError .failure,
        { s with world := ((Files.close f).outcome s.world).2 }) := rfl
  rw [closed]
  cases ((Files.close f).outcome s.world).1 <;> rfl

end Turn

namespace Session

/-- A file can be entered by its name. -/
lemma enterable_outcome {s : Session} {name : String} {f : Ref .file}
    (named : s.names.objects.lookup name = some (.file f)) :
    (enterable name).outcome s = (.ok f, s) := by
  rw [enterable, Turn.outcome_bind, Turn.runs_object named]
  rfl

/-- The steps inside a file end with closing it, whatever they have done and whether or not they are
told to raise. The closing is kept apart from what was done before: its calls and notices are those
of the answer. -/
lemma runStep_within {s : Session} {name : String} {f : Ref .file} (body : List Step)
    (raised : Option String) (named : s.names.objects.lookup name = some (.file f)) :
    let before := (runSteps s body).2.world
    let last := ((Files.close f).outcome (apart before)).2
    (∃ label inner failure, (runStep s (.within name body raised)).1
      = .within label inner failure ⟨last.trace, last.log⟩) ∧
    (runStep s (.within name body raised)).2.world
      = { last with trace := before.trace, log := before.log } := by
  rw [runStep, enterable_outcome named]
  exact ⟨⟨_, _, _, rfl⟩, rfl⟩

end Session

end PEInspect
