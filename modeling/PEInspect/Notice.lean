import PEInspect.Failure

/-!
# Notices

What the library writes to its log, and computations that write notices and may fail. Notices
written before a failure stay.
-/

namespace PEInspect

/-- How important a notice is. -/
inductive Severity where
  | debug
  | warning
  | error
  deriving Repr, DecidableEq, Inhabited

/-- The name of a severity in the log. -/
def Severity.name : Severity → String
  | .debug => "DEBUG"
  | .warning => "WARNING"
  | .error => "ERROR"

/-- One line of the log. -/
structure Notice where
  severity : Severity
  text : String
  deriving Repr, DecidableEq, Inhabited

/-- A computation that writes notices and may fail. -/
abbrev Report (α : Type) := ExceptT Failure (StateM (List Notice)) α

namespace Report

/-- Writes a notice. -/
def note (severity : Severity) (text : String) : Report Unit :=
  modify (· ++ [⟨severity, text⟩])

/-- The result of a computation that starts with an empty log, and the notices it wrote. -/
def outcome {α : Type} (report : Report α) : Except Failure α × List Notice :=
  (ExceptT.run report).run []

end Report

end PEInspect
