import PEInspect.Session.Annotations
import PEInspect.Session.Configs
import PEInspect.Session.Files
import PEInspect.Session.Images
import PEInspect.Session.Loaders
import PEInspect.Session.Modules
import PEInspect.Session.Surroundings

/-!
# Carrying out commands

The meaning of each command: the objects that it names are looked up, the operation of the library
is run, and its result is shown. An object of another kind than the operation is meant for fails as
soon as it is asked for a member that it lacks.
-/

namespace PEInspect

/-- Carries a command out. -/
def Command.perform : Command → Turn Reply
  | .write path content => do
    Turn.act (Storage.write (.ofString path) content)
    return .nothing
  | .delete path => do
    Turn.act (Storage.remove (.ofString path))
    return .nothing
  | .setVariable name value => Turn.setVariable name value
  | .useHeaders outcome => Turn.useHeaders outcome
  | .useMetadata outcome => Turn.useMetadata outcome
  | .scriptImage id fileName body => Turn.scriptImage id fileName body
  | .openImage id source mapped => Turn.openImage id source mapped
  | .viewImage name => do return .image (← Turn.viewImage (← Turn.image name "file_name"))
  | .readDirectory name index => do
    return .directory (← Turn.act (Images.directory (← Turn.image name "data_directory") index))
  | .testManaged name => do
    return .truth (← Turn.act (Images.isManaged (← Turn.image name "data_directory")))
  | .testMapClosed name => do
    return .truth (← Turn.act (Images.isMapClosed (← Turn.image name "data")))
  | .scriptModule id image location script => Turn.scriptModule id image location script
  | .stageModule id image location metadata context =>
    Turn.stageModule id image location metadata context
  | .parseImage id image context => Turn.parseImage id image context
  | .parseBytes id content location context => Turn.parseBytes id content location context
  | .viewModule name => do return .module (← Turn.viewModule (← Turn.managedModule name "name"))
  | .changeModule name change => Turn.changeModule name change
  | .addType name row => do
    return .count (← Turn.act (Modules.addType (← Turn.managedModule name "pe") row))
  | .switchLookup name enabled => do
    let m ← Turn.managedModule name "enable_type_lookup_cache"
    Turn.act (Modules.switchLookup m enabled)
    return .nothing
  | .findType module space name => do
    let m ← Turn.managedModule module "find_type"
    return .type (← Turn.act (Modules.findType m space name))
  | .listTypes name => do
    return .types (← Turn.act (Modules.types (← Turn.managedModule name "_iter_types")))
  | .loadSymbols name path => Turn.loadSymbols name path
  | .addResolver id modules => Turn.addResolver id modules
  | .resolveAssembly scope assembly => do
    let found ← Turn.act (Resolution.module? (← Turn.tokensOf scope) assembly)
    return .reference (← Turn.moduleLabel found)
  | .resolveType scope assembly space name => do
    return .type (← Turn.act (Resolution.type? (← Turn.tokensOf scope) assembly space name))
  | .buildFile id origin key persistable => Turn.buildFile id origin key persistable
  | .viewFile name => do return .file (← Turn.viewFile (← Turn.file name "info"))
  | .viewProperties name => do
    return .properties (← Turn.viewProperties (← Turn.file name "persistable"))
  | .setAutoLoaded name value => Turn.setAutoLoaded name value
  | .adopt id owner wanted => Turn.adopt id owner wanted
  | .setPath file path => Turn.setPath file path
  | .close name disposing => Turn.close name disposing
  | .summarize name => Turn.summarize name
  | .group names => Turn.group names
  | .compareKeys a b => do return .keys (← Turn.requestedKey a) (← Turn.requestedKey b)
  | .addStore id => Turn.addStore id
  | .getValue name key kind default => Turn.getValue name key kind default
  | .removeSlots name key kind => Turn.removeSlots name key kind
  | .pushValue name key item => Turn.pushValue name key item
  | .slots name keys => Turn.slots name keys
  | .addLoader id images modules config settings =>
    Turn.addLoader id images modules config settings
  | .load id request => Turn.load id request
  | .sharesDefaultLoader => return .truth true
  | .compareContexts a b => Turn.compareContexts a b
  | .newConfig id => Turn.introduceConfig id {}
  | .loadConfig id path => do
    Turn.introduceConfig id (← Turn.report fun w => Config.load w.home w.disk w.environment path)
  | .readConfig id text => do
    Turn.introduceConfig id (← Turn.report fun _ => Config.ofJson text)
  | .readSection sec document => do
    let c ← Turn.act (Action.ofExcept (Config.ofSection sec document))
    return .section (c.sectionTable sec)
  | .setEntry name sec entry value => Turn.setEntry name sec entry value
  | .applyEnvironment name =>
    Turn.changeConfig name "_apply_env_overrides" fun w c => c.applyEnvironment w.environment
  | .mergeFile name path =>
    Turn.changeConfig name "_merge_from_file" fun w c => c.mergeFile w.disk (.ofString path)
  | .roundTrip name => Turn.roundTrip name
  | .writeConfig name layout => do
    let c ← Turn.configuration name "to_json"
    return .text (← Turn.act (Action.ofExcept (c.toJson layout)))
  | .validate name => do
    let c ← Turn.configuration name "validate"
    return .texts (← Turn.act (Action.ofExcept c.validate))
  | .setupLogging name times => Turn.setupLogging name times

end PEInspect
