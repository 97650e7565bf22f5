import PEInspect.Config.Basic
import PEInspect.Document.Calendar
import PEInspect.Notice
import PEInspect.Text.Capital

/-!
# Checks and the log

What a configuration is warned about, and how it sets the log up. Both read a setting as a text and
fail on any other kind of value.
-/

namespace PEInspect

open Document

/-- The levels that a configuration may name. -/
def logLevels : List String := ["DEBUG", "INFO", "WARNING", "ERROR", "CRITICAL"]

/-- What a name in capitals means to the logging system: a level, or something else that is no
level. -/
inductive LogName where
  | level (number : Nat)
  | template (text : String)
  | styles (shown : String)
  deriving Repr, DecidableEq

/-- The names that the logging system knows in capitals. -/
def LogName.ofString? (name : String) : Option LogName :=
  match name with
  | "NOTSET" => some (.level 0)
  | "DEBUG" => some (.level 10)
  | "INFO" => some (.level 20)
  | "WARN" => some (.level 30)
  | "WARNING" => some (.level 30)
  | "ERROR" => some (.level 40)
  | "FATAL" => some (.level 50)
  | "CRITICAL" => some (.level 50)
  | "BASIC_FORMAT" => some (.template "%(levelname)s:%(name)s:%(message)s")
  | "_STYLES" => some (.styles (
      "\x7b'%': (<class 'logging.PercentStyle'>, '%(levelname)s:%(name)s:%(message)s'), " ++
      "'\x7b': (<class 'logging.StrFormatStyle'>, '\x7blevelname\x7d:\x7bname\x7d:" ++
      "\x7bmessage\x7d'), '$': (<class 'logging.StringTemplateStyle'>, " ++
      "'$\x7blevelname\x7d:$\x7bname\x7d:$\x7bmessage\x7d')\x7d"))
  | _ => none

/-- The level of a log and the number of its handlers. -/
structure LogSetup where
  level : Nat := 0
  handlers : Nat := 0
  deriving Repr, DecidableEq, Inhabited

/-- One line of the log as a handler writes it. -/
def logLine (date : Date) (time : Time) (level logger message : String) : String :=
  date.text ++ " " ++ time.text ++ " [" ++ level ++ "] " ++ logger ++ ": " ++ message

namespace Config

/-- The text of a setting, for a use that asks the value for one of its members. -/
def textOf (v : Value) (member : String) : Except Failure String :=
  match v with
  | .text s => .ok s
  | v => .error (.noMember v.qualifiedKind member)

/-- The warnings about a symbol extension. -/
def extensionWarnings (extension : String) : List String :=
  let malformed :=
    if extension.toList.head? != some '.' || extension.length < 2 then
      ["loader.symbol_extension must look like '.pdb', got " ++ Text.quoted extension]
    else []
  let separated :=
    if extension.toList.contains '/' || extension.toList.contains '\\' then
      ["loader.symbol_extension can't contain path separators"]
    else []
  malformed ++ separated

/-- The warnings about a log level. -/
def levelWarnings (level : String) : List String :=
  if logLevels.contains (Text.capitals level) then [] else ["Invalid log level: " ++ level]

/-- The warnings about a configuration; none means that it is safe to use. -/
def validate (c : Config) : Except Failure (List String) := do
  let extension ← textOf c.loader.symbolExtension "startswith"
  let level ← textOf c.output.logLevel "upper"
  return extensionWarnings extension ++ levelWarnings level

/-- The level that a name stands for; a name that means nothing stands for INFO. -/
def levelNumber (name : String) : Except Failure Nat :=
  match LogName.ofString? (Text.capitals name) with
  | none => .ok 20
  | some (.level n) => .ok n
  | some (.template text) => .error (.unknownLevel text)
  | some (.styles shown) => .error (.levelNotText shown)

/-- Sets the log to the configured level and adds a handler; a verbose log shows everything. -/
def setupLogging (c : Config) (setup : LogSetup) : Except Failure LogSetup := do
  let name ← textOf c.output.logLevel "upper"
  let level ← levelNumber name
  return ⟨if c.output.verbose.isTruthy then 10 else level, setup.handlers + 1⟩

end Config

end PEInspect
