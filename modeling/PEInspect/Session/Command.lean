import PEInspect.Config.Checks
import PEInspect.Session.LoadCall
import PEInspect.Session.View
import PEInspect.World.Resolution
import PEInspect.World.Storage
import PEInspect.World.Stores

/-!
# Commands and replies

What a session can be told to do, and what it replies. Commands name objects; what they ask for is
resolved when they are carried out.
-/

namespace PEInspect

open Document

/-- A request for a context: none, one without a resolver, or one around a resolver. -/
inductive ContextRequest where
  | none
  | around (resolver : Option String)
  deriving Repr, DecidableEq, Inhabited

/-- A request for a file key. -/
inductive KeyRequest where
  | none
  | filename (path : String)
  | sha256 (digest : String)
  | content (bytes : Bytes)
  | file (path : String)
  deriving Repr, DecidableEq, Inhabited

/-- Through which resolver a reference is followed. -/
inductive Scope where
  | module (name : String)
  | resolver (name : Option String)
  deriving Repr, DecidableEq, Inhabited

/-- What a file is built over. -/
inductive FileOrigin where
  | path (text : String)
  | image (name : String)
  | module (name : String)
  deriving Repr, DecidableEq, Inhabited

/-- What of a file's backing a name is given to. -/
inductive Part where
  | image
  | module
  deriving Repr, DecidableEq, Inhabited

/-- The form of images that a new loader makes. -/
inductive ImageChoice where
  | standard
  | scripted (image : Option String)
  deriving Repr, DecidableEq, Inhabited

/-- New values for what can be set from outside on a module; what is missing stays. -/
structure ModuleChange where
  location : Option (Option String) := none
  name : Option String := none
  symbols : Option (Option SymbolData) := none
  deriving Repr, DecidableEq, Inhabited

/-- What is to be loaded: what a caller gives for a path, or a module. -/
inductive LoadSubject where
  | source (source : ImageSource)
  | module (name : String)
  deriving Repr, DecidableEq, Inhabited

/-- A call that loads a file. The shared loader needs no name, and a key can be given as none. -/
structure LoadRequest where
  operation : LoadOperation
  loader : String := ""
  subject : LoadSubject
  settings : LoadSettings := {}
  resolver : Option String := none
  key : Option KeyRequest := none
  deriving Repr, Inhabited

/-- The arguments that a call gives. -/
def LoadRequest.arguments (r : LoadRequest) : List LoadArgument :=
  r.settings.arguments ++ (r.key.map fun _ => LoadArgument.key).toList

/-- What a session can be told to do. -/
inductive Command where
  | write (path : String) (content : Bytes)
  | delete (path : String)
  | setVariable (name : String) (value : Option String)
  | useHeaders (outcome : HeaderOutcome)
  | useMetadata (outcome : MetadataOutcome)
  | scriptImage (id : String) (fileName : Option String) (body : ImageBody)
  | openImage (id : String) (source : ImageSource) (mapped : Bool)
  | viewImage (image : String)
  | readDirectory (image : String) (index : Int)
  | testManaged (image : String)
  | testMapClosed (image : String)
  | scriptModule (id : String) (image location : Option String) (script : ModuleScript)
  | stageModule (id : String) (image location : Option String) (metadata : Metadata)
      (context : ContextRequest)
  | parseImage (id image : String) (context : ContextRequest)
  | parseBytes (id : String) (content : Bytes) (location : Option String)
      (context : ContextRequest)
  | viewModule (module : String)
  | changeModule (module : String) (change : ModuleChange)
  | addType (module : String) (row : TypeRow)
  | switchLookup (module : String) (enabled : Bool)
  | findType (module space name : String)
  | listTypes (module : String)
  | loadSymbols (module path : String)
  | addResolver (id : String) (modules : List (String × Option String))
  | resolveAssembly (scope : Scope) (assembly : Assembly)
  | resolveType (scope : Scope) (assembly : Assembly) (space name : String)
  | buildFile (id : String) (origin : FileOrigin) (key : KeyRequest) (persistable : Bool)
  | viewFile (file : String)
  | viewProperties (file : String)
  | setAutoLoaded (file : String) (value : Bool)
  | adopt (id file : String) (part : Part)
  | setPath (file path : String)
  | close (on : String) (disposing : Bool)
  | summarize (on : String)
  | group (files : List String)
  | compareKeys (a b : KeyRequest)
  | addStore (id : String)
  | getValue (on key : String) (kind : AnnotationKind) (default : Value)
  | removeSlots (on key : String) (kind : Option AnnotationKind)
  | pushValue (on key : String) (item : Value)
  | slots (on : String) (keys : List String)
  | addLoader (id : String) (images : ImageChoice) (modules : ModuleOpener)
      (config : Option String) (settings : Table)
  | load (id : String) (request : LoadRequest)
  | sharesDefaultLoader
  | compareContexts (a b : String)
  | newConfig (id : String)
  | loadConfig (id : String) (path : Option String)
  | readConfig (id text : String)
  | readSection (sec : Section) (document : Value)
  | setEntry (config sec name : String) (value : Value)
  | applyEnvironment (config : String)
  | mergeFile (config path : String)
  | roundTrip (config : String)
  | writeConfig (config : String) (layout : Json.Layout)
  | validate (config : String)
  | setupLogging (config : String) (times : Nat)
  deriving Inhabited

/-- What a session replies. -/
inductive Reply where
  | nothing
  | reference (label : Option String)
  | truth (b : Bool)
  | count (n : Nat)
  | text (s : String)
  | texts (lines : List String)
  | value (v : AnnotationValue)
  | image (v : ImageView)
  | opened (result : Except Refusal ImageView)
  | directory (d : DataDirectory)
  | module (v : ModuleView)
  | parsed (result : Except Refusal ModuleView)
  | type (t : Option TypeInfo)
  | types (ts : List TypeInfo)
  | symbols (result : Except Refusal SymbolData) (attached : Option SymbolData)
  | file (v : FileView)
  | loaded (v : LoadedView)
  | properties (v : PropertiesView)
  | path (path shortName : String) (outcome : Except Failure FileKey)
  | groups (files : List (List String))
  | keys (a b : Option FileKey)
  | slots (addresses : List (String × AnnotationKind)) (present : List Bool)
  | loader (l : Loader)
  | contexts (same : Bool)
  | config (c : Config)
  | section (entries : Table)
  | logging (setup : LogSetup) (lines : List String)
  deriving Inhabited

end PEInspect
