import PEInspect.World.Loading

/-!
# Calls that load a file

The operations that load a file differ in the arguments that they take. A call names its operation
and the arguments that it gives. An argument that the operation does not take stops the call before
anything is loaded, and so does the lack of one that it needs; of the two faults the first counts.
-/

namespace PEInspect

open Document

/-- The operations that load a file. -/
inductive LoadOperation where
  /-- A loader loads a path, with settings for this call. -/
  | path
  /-- A loader loads a path with its own settings. -/
  | standard
  /-- A loader takes a module over. -/
  | module
  /-- The shared loader loads a path. -/
  | sharedPath
  /-- The shared loader takes a module over. -/
  | sharedModule
  deriving Repr, DecidableEq, Inhabited

/-- The arguments of a call beside what is loaded and the resolver, which every operation takes. -/
inductive LoadArgument where
  | mapped
  | symbols
  | key
  deriving Repr, DecidableEq, Inhabited

/-- The name of an argument. -/
def LoadArgument.name : LoadArgument → String
  | .mapped => Setting.mappedIo.key
  | .symbols => Setting.loadSymbols.key
  | .key => "key"

namespace LoadOperation

/-- The member of a loader, or of the library, that an operation is. -/
def member : LoadOperation → String
  | .path | .sharedPath => "load_from_path"
  | .standard => "load"
  | .module | .sharedModule => "load_from_module"

/-- Whether an operation goes through the shared loader. -/
def isShared : LoadOperation → Bool
  | .sharedPath | .sharedModule => true
  | .path | .standard | .module => false

/-- The name of an operation in messages. -/
def name (o : LoadOperation) : String :=
  if o.isShared then o.member else "FileLoader." ++ o.member

/-- The arguments that an operation takes. -/
def taken : LoadOperation → List LoadArgument
  | .path => [.mapped, .symbols, .key]
  | .standard => [.key]
  | .module => [.symbols, .key]
  | .sharedPath => [.mapped, .symbols]
  | .sharedModule => [.symbols]

/-- The arguments that an operation cannot do without. -/
def needed : LoadOperation → List LoadArgument
  | .path => [.mapped, .symbols]
  | .module => [.symbols]
  | .standard | .sharedPath | .sharedModule => []

/-- Compares the arguments of a call with those that its operation takes and needs. -/
def check (o : LoadOperation) (given : List LoadArgument) : Except Failure Unit :=
  match given.find? (!o.taken.contains ·), o.needed.filter (!given.contains ·) with
  | some strange, _ => .error (.strangeArgument o.name strange.name)
  | none, [] => .ok ()
  | none, missing => .error (.missingArguments o.name (missing.map LoadArgument.name))

end LoadOperation

/-- The settings that a call gives, with what stands for those that it does not give. -/
structure LoadSettings where
  mapped : Option Value := none
  symbols : Option Value := none
  deriving Repr, Inhabited

namespace LoadSettings

/-- How the file is opened. -/
def mappedIo (s : LoadSettings) : Value :=
  s.mapped.getD Setting.mappedIo.fallback

/-- Whether symbols are looked for. -/
def loadsSymbols (s : LoadSettings) : Bool :=
  (s.symbols.getD Setting.loadSymbols.fallback).isTruthy

/-- The settings that a call gives, as arguments. -/
def arguments (s : LoadSettings) : List LoadArgument :=
  (s.mapped.map fun _ => LoadArgument.mapped).toList ++
    (s.symbols.map fun _ => LoadArgument.symbols).toList

end LoadSettings

end PEInspect
