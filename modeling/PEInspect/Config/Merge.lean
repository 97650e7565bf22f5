import PEInspect.Config.Basic
import PEInspect.Disk
import PEInspect.Json.Reader
import PEInspect.Notice
import PEInspect.Text.Capital
import PEInspect.Text.Search
import PEInspect.Toml.Reader

/-!
# Sources of a configuration

How a configuration comes about: the sections of documents are merged in one after the other, and
environment variables override single settings at the end. A section that a document has replaces
the whole section before it. A file that cannot be read or is malformed is passed over with a
notice; a file that is not UTF-8 stops the loading, and so does a document with a number of too many
digits or with too much nesting.
-/

namespace PEInspect

open Document

/-- Environment variables. -/
abbrev Environment := Entries String String

namespace Config

/-- What a document has under the name of a section. A text that contains the name, and a list
that has it as an item, seem to have the section and then fail to give it. -/
def sectionOf (document : Value) (name : String) : Except Failure (Option Value) :=
  match document with
  | .table t => .ok (t.lookup name)
  | .text s => if Text.occursIn name.toList s.toList then .error .textIndexedByText else .ok none
  | .list items =>
    if items.any (·.isText name) then .error .listIndexedByText else .ok none
  | v => .error (.notIterable v.qualifiedKind)

/-- Takes one section of a document over. Only tables are sections. -/
def mergeSection (c : Config) (document : Value) (sec : Section) : Report Config := do
  match ← sectionOf document sec.name with
  | none => return c
  | some (.table t) => return c.withSection sec t
  | some v =>
    Report.note .warning
      ("Ignoring config section " ++ Text.quoted sec.name ++ ": expected a table, got " ++ v.kind)
    return c

/-- Takes the sections of a document over. -/
def merge (c : Config) (document : Value) : Report Config := do
  let c ← c.mergeSection document .loader
  c.mergeSection document .output

/-- The notice about a file that is passed over. -/
def unusableFile (path : Path) (why : String) : String :=
  "Failed to parse config file " ++ path.toString ++ ": " ++ why

/-- Takes the sections of a file over. -/
def mergeFile (c : Config) (disk : Disk) (path : Path) : Report Config := do
  match disk.read path with
  | .error (.system e p) =>
    Report.note .error (unusableFile path (Failure.system e p).message)
    return c
  | .error f => throw f
  | .ok content =>
    match Text.decode? content with
    | none => throw .notUtf8
    | some chars =>
      match Toml.read (String.ofList chars) with
      | .error .malformed =>
        Report.note .error (unusableFile path "malformed document")
        return c
      | .error defect => throw (.ofDefect .malformedDocument defect)
      | .ok t =>
        let c ← c.merge (.table t)
        Report.note .debug ("Loaded configuration from " ++ path.toString)
        return c

/-- The configuration file of the user, below a home directory. -/
def userFile (home : Path) : Path :=
  { home with
    parts := home.parts ++ [".config".toList, "spyglass".toList, "spyglass.toml".toList] }

/-- The configuration file of the project in the working directory. -/
def projectFile : Path := .ofString "spyglass.toml"

/-- Takes a file over if there is one. -/
def mergeIfPresent (c : Config) (disk : Disk) (path : Path) : Report Config := do
  if ← disk.has path then c.mergeFile disk path else return c

/-- Takes the explicitly named file over; that it is missing is worth a notice. -/
def mergeExplicit (c : Config) (disk : Disk) (name : String) : Report Config := do
  let path := Path.ofString name
  if ← disk.has path then
    let c ← c.mergeFile disk path
    return { c with source := some path.toString }
  else
    Report.note .warning ("Config file not found: " ++ path.toString)
    return c

/-- The environment variables that override settings, in the order in which they are applied. -/
def overrides : List (String × Setting) := [
  ("SPYGLASS_MAPPED_IO", .mappedIo),
  ("SPYGLASS_LOAD_SYMBOLS", .loadSymbols),
  ("SPYGLASS_SYMBOL_EXTENSION", .symbolExtension),
  ("SPYGLASS_LOG_LEVEL", .logLevel),
  ("SPYGLASS_VERBOSE", .verbose)]

/-- The words that switch a setting on. -/
def isAffirmative (s : String) : Bool :=
  ["true", "1", "yes"].contains (Text.lowered s)

/-- The value that a variable's text gives a setting. -/
def overrideValue (s : Setting) (text : String) : Value :=
  match s with
  | .symbolExtension | .logLevel => .text text
  | .mappedIo | .loadSymbols | .verbose => .bool (isAffirmative text)

/-- The text of an override in the log. -/
def overrideText : Value → String
  | .bool b => if b then "True" else "False"
  | .text s => s
  | _ => ""

/-- Applies one variable if it is set. -/
def applyOverride (env : Environment) (c : Config) (o : String × Setting) : Report Config := do
  match env.lookup o.1 with
  | none => return c
  | some text =>
    let v := overrideValue o.2 text
    Report.note .debug ("Applied env override: " ++ o.1 ++ "=" ++ overrideText v)
    return c.set o.2 v

/-- Applies the environment. -/
def applyEnvironment (c : Config) (env : Environment) : Report Config :=
  overrides.foldlM (applyOverride env) c

/-- Loads the configuration: defaults, the user's file, the project's file, an explicit file, and
the environment, each over the ones before. -/
def load (home : Path) (disk : Disk) (env : Environment) (explicit : Option String) :
    Report Config := do
  let c ← ({} : Config).mergeIfPresent disk (userFile home)
  let c ← c.mergeIfPresent disk projectFile
  let c ← match explicit with
    | none => pure c
    | some name => c.mergeExplicit disk name
  c.applyEnvironment env

/-- The configuration in a JSON text. -/
def ofJson (text : String) : Report Config := do
  match Json.read text with
  | .error defect => throw (.ofDefect .malformedDocument defect)
  | .ok document => ({} : Config).merge document

end Config

end PEInspect
