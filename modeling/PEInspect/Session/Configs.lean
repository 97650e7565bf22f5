import PEInspect.Session.Command

/-!
# Commands on configurations

How configurations come into a session, how they are changed and written, and the log that they set
up. Settings are shown as documents give them, and a number that is too long to be written keeps them
from being shown.
-/

namespace PEInspect

open Document

namespace Turn

/-- Shows values of documents, which numbers that are too long do not let happen. -/
def showing (values : List Value) (reply : Reply) : Turn Reply := do
  if values.any Value.hasLongNumber then throw (.failure .unwritableNumber) else return reply

/-- The configuration that a name stands for, to be asked for a member. -/
def configuration (name member : String) : Turn Config := do
  let r ← config name member
  return (← get).world.configs.get r

/-- Runs a report on the world's disk and environment. -/
def report {α : Type} (f : World → Report α) : Turn α := do
  act (Action.ofReport (f (← get).world))

/-- Shows a configuration. -/
def showConfig (c : Config) : Turn Reply :=
  showing [.table c.toTable] (.config c)

/-- Names a configuration and shows it. -/
def introduceConfig (id : String) (c : Config) : Turn Reply := do
  let r ← modifyGet fun s =>
    (s.world.configs.next, { s with world := { s.world with configs := s.world.configs.add c } })
  register id (.config r)
  showConfig c

/-- Changes a configuration by a report, to which the configuration leads by a member, and shows
it. -/
def changeConfig (name member : String) (f : World → Config → Report Config) : Turn Reply := do
  let r ← config name member
  let c ← report fun w => f w (w.configs.get r)
  modify fun s => { s with world := { s.world with configs := s.world.configs.set r c } }
  showConfig c

/-- Gives an entry of a configuration a value. -/
def setEntry (name secName entry : String) (value : Value) : Turn Reply :=
  match Section.ofName? secName with
  | some sec => changeConfig name secName fun _ c => return c.setNamed sec entry value
  | none => do withoutMember (← object name) secName

/-- Writes a configuration as JSON and reads it again. -/
def roundTrip (name : String) : Turn Reply := do
  let c ← configuration name "to_json"
  let text ← act (Action.ofExcept (c.toJson (.indented [' ', ' '])))
  showConfig (← report fun _ => Config.ofJson text)

/-- The line about a full disk, as each handler of a log writes it. -/
def sampleLine : String :=
  logLine ⟨1970, 1, 1⟩ ⟨23, 59, 59, 0⟩ "WARNING" "spyglass.core" "disk full"

/-- Sets a bare log up some times and shows it with one line of each handler. -/
def setupLogging (name : String) (times : Nat) : Turn Reply := do
  let c ← configuration name "setup_logging"
  let setup ← act (Action.ofExcept ((List.range times).foldlM (fun s _ => c.setupLogging s) {}))
  return .logging setup (List.replicate setup.handlers sampleLine)

end Turn

end PEInspect
