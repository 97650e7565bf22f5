import Mathlib.Tactic.Lemma
import PEInspect.Notice

/-!
# Results of reports

A report never looks at the notices that stand in the log already, so its result is the same over
every log. `Report.Gives` states a result in this way, and the lemmas below compose the results of
the steps of a report.
-/

namespace PEInspect.Report

variable {α β : Type}

/-- Runs a report over the notices that stand in the log already. -/
def startingAt (report : Report α) (notices : List Notice) : Except Failure α × List Notice :=
  (ExceptT.run report).run notices

/-- A report after another starts over the log that the first leaves, if the first succeeds. -/
lemma startingAt_bind (report : Report α) (next : α → Report β) (notices : List Notice) :
    (report >>= next).startingAt notices =
      match report.startingAt notices with
      | (.ok x, after) => (next x).startingAt after
      | (.error f, after) => (.error f, after) := by
  simp only [startingAt, bind, ExceptT.bind, ExceptT.mk, ExceptT.run, StateT.run, StateT.bind]
  rcases (report : List Notice → Except Failure α × List Notice) notices with ⟨_ | _, _⟩ <;> rfl

/-- A report gives a result, whatever stands in the log before it. -/
def Gives (report : Report α) (result : Except Failure α) : Prop :=
  ∀ notices, (report.startingAt notices).1 = result

/-- A given result is the one over the empty log. -/
lemma Gives.outcome {r : Report α} {x} (g : r.Gives x) : r.outcome.1 = x :=
  g []

/-- A report that does nothing gives its value. -/
lemma gives_pure (x : α) : Gives (pure x) (.ok x) :=
  fun _ => rfl

/-- A notice is written. -/
lemma gives_note (severity : Severity) (text : String) : (note severity text).Gives (.ok ()) :=
  fun _ => rfl

/-- A pure result inside a report is the result that the report gives. -/
lemma gives_lift (x : Except Failure α) : Gives (liftM x : Report α) x := by
  intro notices
  cases x <;> rfl

/-- A step that succeeds hands its value on. -/
lemma Gives.bind {r : Report α} {next : α → Report β} {x y}
    (first : r.Gives (.ok x)) (second : (next x).Gives y) : (r >>= next).Gives y := by
  intro notices
  have run := first notices
  rw [startingAt_bind]
  rcases e : r.startingAt notices with ⟨result, after⟩
  rw [e] at run
  cases run
  exact second after

/-- A step that fails ends the report. -/
lemma Gives.bind_error {r : Report α} {next : α → Report β} {f}
    (first : r.Gives (.error f)) : (r >>= next).Gives (.error f) := by
  intro notices
  have run := first notices
  rw [startingAt_bind]
  rcases e : r.startingAt notices with ⟨result, after⟩
  rw [e] at run
  cases run
  rfl

end PEInspect.Report
