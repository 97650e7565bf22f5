import PEInspect.Document.Value
import PEInspect.Failure
import PEInspect.Json.Printer

/-!
# Configuration

The five settings of the library in their two sections, the defaults, and the configuration as a
document. Settings hold the values that documents gave them, of whatever kind. A section can be given
further entries by name; they are shown with it and mean nothing.
-/

namespace PEInspect

open Document

/-- The sections of a configuration. -/
inductive Section where
  | loader
  | output
  deriving Repr, DecidableEq, Inhabited

/-- The name of a section in documents. -/
def Section.name : Section → String
  | .loader => "loader"
  | .output => "output"

/-- The section of a name. -/
def Section.ofName? (name : String) : Option Section :=
  [Section.loader, .output].find? fun sec => sec.name == name

/-- The settings of a configuration. -/
inductive Setting where
  | mappedIo
  | loadSymbols
  | symbolExtension
  | verbose
  | logLevel
  deriving Repr, DecidableEq, Inhabited

namespace Setting

/-- The settings of a section, in the order in which documents write them. -/
def all : Section → List Setting
  | .loader => [.mappedIo, .loadSymbols, .symbolExtension]
  | .output => [.verbose, .logLevel]

/-- The section of a setting. -/
def home : Setting → Section
  | .mappedIo | .loadSymbols | .symbolExtension => .loader
  | .verbose | .logLevel => .output

/-- The key of a setting in its section. -/
def key : Setting → String
  | .mappedIo => "use_mapped_io"
  | .loadSymbols => "load_symbols"
  | .symbolExtension => "symbol_extension"
  | .verbose => "verbose"
  | .logLevel => "log_level"

/-- The value of a setting that nothing sets. -/
def fallback : Setting → Value
  | .mappedIo => .bool true
  | .loadSymbols => .bool true
  | .symbolExtension => .text ".pdb"
  | .verbose => .bool false
  | .logLevel => .text "INFO"

/-- The setting that a key names in a section. -/
def ofKey? (sec : Section) (key : String) : Option Setting :=
  (all sec).find? fun s => s.key == key

end Setting

/-- The settings for opening files, and further entries beside them. -/
structure LoaderSettings where
  mappedIo : Value := Setting.mappedIo.fallback
  loadSymbols : Value := Setting.loadSymbols.fallback
  symbolExtension : Value := Setting.symbolExtension.fallback
  further : Table := []
  deriving Repr, Inhabited

/-- The settings for the log, and further entries beside them. -/
structure OutputSettings where
  verbose : Value := Setting.verbose.fallback
  logLevel : Value := Setting.logLevel.fallback
  further : Table := []
  deriving Repr, Inhabited

/-- A configuration: the settings, and the explicit file they come from, if there is one. -/
structure Config where
  loader : LoaderSettings := {}
  output : OutputSettings := {}
  source : Option String := none
  deriving Repr, Inhabited

/-- The loader settings that a table gives; keys it does not have keep their defaults. -/
def LoaderSettings.ofTable (t : Table) : LoaderSettings where
  mappedIo := (t.lookup Setting.mappedIo.key).getD Setting.mappedIo.fallback
  loadSymbols := (t.lookup Setting.loadSymbols.key).getD Setting.loadSymbols.fallback
  symbolExtension := (t.lookup Setting.symbolExtension.key).getD Setting.symbolExtension.fallback

/-- The log settings that a table gives; keys it does not have keep their defaults. -/
def OutputSettings.ofTable (t : Table) : OutputSettings where
  verbose := (t.lookup Setting.verbose.key).getD Setting.verbose.fallback
  logLevel := (t.lookup Setting.logLevel.key).getD Setting.logLevel.fallback

namespace Config

/-- The value of a setting. -/
def get (c : Config) : Setting → Value
  | .mappedIo => c.loader.mappedIo
  | .loadSymbols => c.loader.loadSymbols
  | .symbolExtension => c.loader.symbolExtension
  | .verbose => c.output.verbose
  | .logLevel => c.output.logLevel

/-- Gives a setting a value. -/
def set (c : Config) (s : Setting) (v : Value) : Config :=
  match s with
  | .mappedIo => { c with loader := { c.loader with mappedIo := v } }
  | .loadSymbols => { c with loader := { c.loader with loadSymbols := v } }
  | .symbolExtension => { c with loader := { c.loader with symbolExtension := v } }
  | .verbose => { c with output := { c.output with verbose := v } }
  | .logLevel => { c with output := { c.output with logLevel := v } }

/-- The further entries of a section. -/
def further (c : Config) : Section → Table
  | .loader => c.loader.further
  | .output => c.output.further

/-- Gives a section a further entry. -/
def setFurther (c : Config) (sec : Section) (name : String) (v : Value) : Config :=
  match sec with
  | .loader =>
    { c with loader := { c.loader with further := Entries.insert c.loader.further name v } }
  | .output =>
    { c with output := { c.output with further := Entries.insert c.output.further name v } }

/-- Whether an entry is never shown. -/
def isHidden (name : String) : Bool :=
  name.toList.head? == some '_'

/-- Gives an entry of a section a value, whether it is a setting or a further one. -/
def setNamed (c : Config) (sec : Section) (name : String) (v : Value) : Config :=
  match Setting.ofKey? sec name with
  | some s => c.set s v
  | none => if isHidden name then c else c.setFurther sec name v

/-- A whole section from a table: keys that the table lacks fall back to their defaults. -/
def withSection (c : Config) (sec : Section) (t : Table) : Config :=
  match sec with
  | .loader => { c with loader := .ofTable t }
  | .output => { c with output := .ofTable t }

/-- A section from a value, which has to be a table. -/
def ofSection (sec : Section) (v : Value) : Except Failure Config :=
  match v with
  | .table t => .ok (({} : Config).withSection sec t)
  | v => .error (.noMember v.qualifiedKind "items")

/-- A section as a table: its settings, then its further entries. -/
def sectionTable (c : Config) (sec : Section) : Table :=
  (Setting.all sec).map (fun s => (s.key, c.get s)) ++ c.further sec

/-- The configuration as a document. -/
def toTable (c : Config) : Table :=
  [Section.loader, Section.output].map fun sec => (sec.name, .table (c.sectionTable sec))

/-- The configuration as JSON text; dates and long numbers among the values have no such text. -/
def toJson (c : Config) (layout : Json.Layout) : Except Failure String :=
  match Json.write layout (.table c.toTable) with
  | .ok text => .ok text
  | .error (.int _) => .error .unwritableNumber
  | .error v => .error (.notWritable v.kind)

/-- A setting that has been set gives its new value, and the others theirs. -/
@[simp] theorem get_set (c : Config) (s t : Setting) (v : Value) :
    (c.set s v).get t = if s = t then v else c.get t := by
  cases s <;> cases t <;> rfl

end Config

end PEInspect
