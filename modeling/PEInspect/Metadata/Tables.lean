import PEInspect.Metadata.Item

/-!
# Metadata tables

The tables of a module's metadata that this library looks at, and what it takes from them: the name
of the module, the identity of its assembly, and its types with their tokens. A token is the number
of the type table in its high byte and the position of the row, counted from one, below.
-/

namespace PEInspect

/-- A row of the module table. -/
structure ModuleRow where
  name : Item := default
  deriving Repr, DecidableEq, Inhabited

/-- A row of the assembly table. -/
structure AssemblyRow where
  name : Item := default
  culture : Item := default
  major : Item := default
  minor : Item := default
  build : Item := default
  revision : Item := default
  deriving Repr, DecidableEq, Inhabited

/-- A row of the type table. -/
structure TypeRow where
  space : Item := default
  name : Item := default
  deriving Repr, DecidableEq, Inhabited

/-- A table of metadata: it is missing, or it stands without a list of rows, or it lists rows. -/
inductive RowTable (α : Type) where
  | missing
  | unlisted
  | listed (rows : List α)
  deriving Repr, DecidableEq, Inhabited

/-- The rows of a table; a table that lists none has none. -/
def RowTable.rows {α : Type} : RowTable α → List α
  | .missing => []
  | .unlisted => []
  | .listed rows => rows

/-- The tables of a module. -/
structure Tables where
  modules : RowTable ModuleRow := .missing
  assemblies : RowTable AssemblyRow := .missing
  types : RowTable TypeRow := .missing
  deriving Repr, DecidableEq, Inhabited

/-- What a metadata reader found: no runtime header, no tables behind it, or tables. -/
inductive Metadata where
  | headerless
  | tableless
  | tables (t : Tables)
  deriving Repr, DecidableEq, Inhabited

/-- The identity of an assembly. -/
structure Assembly where
  name : String
  version : List Int := [0, 0, 0, 0]
  culture : String := ""
  deriving Repr, DecidableEq, Inhabited

/-- The display name of an assembly; an empty culture is the neutral one. -/
def Assembly.fullName (a : Assembly) : String :=
  let version := ".".intercalate (a.version.map toString)
  let culture := if a.culture.isEmpty then "neutral" else a.culture
  a.name ++ ", Version=" ++ version ++ ", Culture=" ++ culture

/-- A type that a module defines. -/
structure TypeInfo where
  space : String
  name : String
  token : Int
  deriving Repr, DecidableEq, Inhabited

/-- The name of a type after its namespace, if it has one. -/
def TypeInfo.fullName (t : TypeInfo) : String :=
  if t.space.isEmpty then t.name else t.space ++ "." ++ t.name

/-- The number of the type table. -/
def typeTable : Nat := 0x02

/-- The token of the row at a position counted from one. -/
def typeToken (position : Nat) : Nat :=
  typeTable <<< 24 ||| position

/-- The type in a row at a position counted from one. -/
def TypeRow.info (row : TypeRow) (position : Nat) : TypeInfo :=
  ⟨row.space.display, row.name.display, typeToken position⟩

/-- The types in the rows of a table, in order, the first at a given position. -/
def typesFrom (position : Nat) : List TypeRow → List TypeInfo
  | [] => []
  | row :: rest => row.info position :: typesFrom (position + 1) rest

/-- The assembly in a row. -/
def AssemblyRow.assembly (row : AssemblyRow) : Except Failure Assembly := do
  let name := row.name.display
  let major ← row.major.number
  let minor ← row.minor.number
  let build ← row.build.number
  let revision ← row.revision.number
  return ⟨name, [major, minor, build, revision], row.culture.display⟩

namespace Tables

/-- The name in the first row of the module table, empty if there is none. -/
def moduleName (t : Tables) : String :=
  match t.modules.rows with
  | [] => ""
  | row :: _ => row.name.display

/-- The assembly in the first row of the assembly table, if there is one. -/
def assembly (t : Tables) : Except Failure (Option Assembly) :=
  match t.assemblies.rows with
  | [] => .ok none
  | row :: _ => row.assembly.map some

/-- The types of the type table. -/
def typeList (t : Tables) : List TypeInfo :=
  typesFrom 1 t.types.rows

end Tables

namespace Metadata

/-- The tables, for a use that asks for the table with a given name. -/
def tablesFor (m : Metadata) (table : String) : Except Failure Tables :=
  match m with
  | .headerless => .error (.noMember "FakePE" "net")
  | .tableless => .error (.noMember "NoneType" table)
  | .tables t => .ok t

/-- The module's name. -/
def moduleName (m : Metadata) : Except Failure String :=
  (m.tablesFor "Module").map Tables.moduleName

/-- The module's assembly. -/
def assembly (m : Metadata) : Except Failure (Option Assembly) := do
  (← m.tablesFor "Assembly").assembly

/-- The module's types. -/
def typeList (m : Metadata) : Except Failure (List TypeInfo) :=
  (m.tablesFor "TypeDef").map Tables.typeList

/-- Adds a row to the type table, which has to list rows. -/
def addType (m : Metadata) (row : TypeRow) : Except Failure Metadata := do
  let t ← m.tablesFor "TypeDef"
  match t.types with
  | .missing => throw (.noMember "NoneType" "rows")
  | .unlisted => throw (.noMember "NoneType" "append")
  | .listed rows => return .tables { t with types := .listed (rows ++ [row]) }

end Metadata

/-- What a metadata reader answers: it fails, or it opens the data. -/
inductive MetadataOutcome where
  | raised (text : String)
  | opened (m : Metadata)
  deriving Repr, DecidableEq, Inhabited

end PEInspect
