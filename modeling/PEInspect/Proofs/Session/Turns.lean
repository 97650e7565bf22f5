import PEInspect.Proofs.World.Effects
import PEInspect.Session.Step

/-!
# Turns

How turns of a session run: `Turn.Runs` relates a session to a result and the session after it, as
`Action.Runs` does for worlds, and an action runs as a turn as it does in the world of the session. A
turn that is recorded has its calls and notices to itself.
-/

namespace PEInspect

namespace Turn

variable {α β : Type}

/-- A turn after another starts in the session that the first leaves, if the first succeeds. -/
lemma outcome_bind (turn : Turn α) (next : α → Turn β) (s : Session) :
    outcome (turn >>= next) s =
      match outcome turn s with
      | (.ok x, after) => outcome (next x) after
      | (.error fault, after) => (.error fault, after) := by
  simp only [outcome, bind, ExceptT.bind, ExceptT.mk, ExceptT.run, StateT.run, StateT.bind]
  rcases (turn : Session → Except Fault α × Session) s with ⟨_ | _, _⟩ <;> rfl

/-- A turn runs from a session to a result and the session after it. -/
def Runs (turn : Turn α) (s : Session) (result : Except Fault α) (t : Session) : Prop :=
  turn.outcome s = (result, t)

/-- A turn after a successful one runs from the session that the first leaves. -/
lemma Runs.bind {turn : Turn α} {next : α → Turn β} {s x t r u}
    (first : turn.Runs s (.ok x) t) (second : (next x).Runs t r u) :
    (turn >>= next).Runs s r u := by
  rw [Runs, outcome_bind, first]
  exact second

/-- A turn that does nothing changes nothing. -/
lemma runs_pure (x : α) (s : Session) : Runs (pure x) s (.ok x) s := rfl

/-- An action runs as a turn in the world of a session. -/
lemma runs_act {action : Action α} {s : Session} {r v} (run : action.Runs s.world r v) :
    (act action).Runs s (r.mapError .failure) { s with world := v } := by
  have turn : outcome (act action) s = ((action.outcome s.world).1.mapError .failure,
    { s with world := (action.outcome s.world).2 }) := rfl
  rw [Runs, turn, run]

/-- An object is found under its name. -/
lemma runs_object {s : Session} {name : String} {o : Object}
    (named : s.names.objects.lookup name = some o) : (object name).Runs s (.ok o) s := by
  refine .bind (x := s) rfl ?_
  rw [named]
  exact runs_pure o s

/-- An object of the right kind is found under its name. -/
lemma runs_havingMember {select : Object → Option α} {s : Session} {name : String} {o : Object} {x}
    (member : String) (named : s.names.objects.lookup name = some o) (kind : select o = some x) :
    (havingMember select name member).Runs s (.ok x) s := by
  refine .bind (runs_object named) ?_
  rw [kind]
  exact runs_pure x s

end Turn

namespace Session

/-- The world in which a turn is recorded: calls and notices are kept apart. -/
def apart (w : World) : World :=
  { w with trace := [], log := [] }

/-- What a recorded turn does. -/
lemma recorded_eq {α : Type} {turn : Turn α} {s after : Session} {r}
    (run : turn.Runs { s with world := apart s.world } r after) :
    recorded turn s = (r, ⟨after.world.trace, after.world.log⟩,
      { after with world := { after.world with trace := s.world.trace, log := s.world.log } }) := by
  have outcome : turn.outcome { s with world := apart s.world } = (r, after) := run
  rw [apart] at outcome
  rw [recorded, outcome]

/-- A command runs as its recorded turn. -/
lemma runStep_command {c : Command} {s after : Session} {r}
    (run : c.perform.Runs { s with world := apart s.world } r after) :
    runStep s (.command c) = (.plain r ⟨after.world.trace, after.world.log⟩,
      { after with world := { after.world with trace := s.world.trace, log := s.world.log } }) := by
  rw [runStep, recorded_eq run]

end Session

end PEInspect
