import Mathlib.Data.List.Forall2
import PEInspect.Metadata.Tables
import PEInspect.Proofs.Text.Utf8

/-!
# Spellings of texts in metadata

A metadata reader may give a text as it is, as its bytes in UTF-8 or as a box around either, and an
empty text also as nothing. `Respells` relates metadata that differ in such spellings alone, and
`spelledOut` puts every text of a row as it is. Metadata that respell each other are the same when
they are spelled out, since lossy decoding undoes encoding; and what is asked of metadata comes out
the same whether or not they are spelled out.
-/

namespace PEInspect

namespace Item

/-- The ways in which a cell holds a text. -/
inductive Spells (s : String) : Item → Prop where
  | text :
    Spells s (.plain (.text s))
  | bytes :
    Spells s (.plain (.raw (Text.encode s.toList)))
  | boxedText :
    Spells s (.boxed (.plain (.text s)))
  | boxedBytes :
    Spells s (.boxed (.plain (.raw (Text.encode s.toList))))
  | absent :
    s = "" →
    Spells s (.plain .absent)
  | boxedAbsent :
    s = "" →
    Spells s (.boxed (.plain .absent))

/-- A cell stays, or the text that it holds is spelled in some way. -/
inductive Respells : Item → Item → Prop where
  | same i :
    Respells i i
  | text {s i j} :
    Spells s i →
    Spells s j →
    Respells i j

/-- The cell that holds the text of a cell as it is. -/
def spelledOut (i : Item) : Item :=
  .plain (.text i.display)

/-- The bytes of a text are displayed as the text. -/
lemma display_raw_encode (s : String) : (Plain.raw (Text.encode s.toList)).display = s := by
  rw [Plain.display, Text.decodeLossy_encode, String.ofList_toList]

/-- An item that spells a text is displayed as the text. -/
lemma Spells.display {s : String} {i : Item} (spells : Spells s i) : i.display = s := by
  cases spells with
  | text => rfl
  | bytes => exact display_raw_encode s
  | boxedText => rfl
  | boxedBytes => exact display_raw_encode s
  | absent empty => exact empty.symm
  | boxedAbsent empty => exact empty.symm

/-- An item is spelled out as its respelling is. -/
lemma Respells.spelledOut {i j : Item} (respells : Respells i j) : j.spelledOut = i.spelledOut := by
  cases respells with
  | same => rfl
  | text spells spells' => rw [Item.spelledOut, Item.spelledOut, spells.display, spells'.display]

end Item

/-! ## Rows -/

structure ModuleRow.Respells (x y : ModuleRow) : Prop where
  name : x.name.Respells y.name

/-- Rows of the assembly table differ in the spelling of texts; the parts of a version stay. -/
structure AssemblyRow.Respells (x y : AssemblyRow) : Prop where
  name : x.name.Respells y.name
  culture : x.culture.Respells y.culture
  version : y = { x with name := y.name, culture := y.culture }

structure TypeRow.Respells (x y : TypeRow) : Prop where
  space : x.space.Respells y.space
  name : x.name.Respells y.name

def ModuleRow.spelledOut (row : ModuleRow) : ModuleRow :=
  ⟨row.name.spelledOut⟩

def AssemblyRow.spelledOut (row : AssemblyRow) : AssemblyRow :=
  { row with name := row.name.spelledOut, culture := row.culture.spelledOut }

def TypeRow.spelledOut (row : TypeRow) : TypeRow :=
  ⟨row.space.spelledOut, row.name.spelledOut⟩

/-- A module row is spelled out as its respelling is. -/
lemma ModuleRow.Respells.spelledOut {x y : ModuleRow} (respells : x.Respells y) :
    y.spelledOut = x.spelledOut := by
  rw [ModuleRow.spelledOut, respells.name.spelledOut]
  rfl

/-- An assembly row is spelled out as its respelling is. -/
lemma AssemblyRow.Respells.spelledOut {x y : AssemblyRow} (respells : x.Respells y) :
    y.spelledOut = x.spelledOut := by
  obtain ⟨name, culture, version⟩ := respells
  rw [AssemblyRow.spelledOut, name.spelledOut, culture.spelledOut, version]
  rfl

/-- A type row is spelled out as its respelling is. -/
lemma TypeRow.Respells.spelledOut {x y : TypeRow} (respells : x.Respells y) :
    y.spelledOut = x.spelledOut := by
  rw [TypeRow.spelledOut, respells.space.spelledOut, respells.name.spelledOut]
  rfl

/-! ## Tables -/

/-- A function that does not tell related items apart has the same values on related lists. -/
lemma map_eq_of_forall₂ {α : Type} {R : α → α → Prop} {f : α → α}
    (same : ∀ x y, R x y → f y = f x) {xs ys : List α} (related : List.Forall₂ R xs ys) :
    ys.map f = xs.map f := by
  induction related with
  | nil => rfl
  | cons first _ ih => rw [List.map_cons, List.map_cons, same _ _ first, ih]

namespace RowTable

variable {α : Type}

/-- Tables whose rows are related one by one. -/
inductive Related (R : α → α → Prop) : RowTable α → RowTable α → Prop where
  | missing :
    Related R .missing .missing
  | unlisted :
    Related R .unlisted .unlisted
  | listed {xs ys} :
    List.Forall₂ R xs ys →
    Related R (.listed xs) (.listed ys)

/-- The table with each row changed. -/
def map (f : α → α) : RowTable α → RowTable α
  | .missing => .missing
  | .unlisted => .unlisted
  | .listed rows => .listed (rows.map f)

/-- The rows of a table are changed one by one. -/
lemma rows_map (f : α → α) (t : RowTable α) : (t.map f).rows = t.rows.map f := by
  cases t <;> rfl

/-- A function that does not tell related rows apart makes the same of related tables. -/
lemma Related.map {R : α → α → Prop} {f : α → α} (same : ∀ x y, R x y → f y = f x)
    {s t : RowTable α} (related : Related R s t) : t.map f = s.map f := by
  cases related with
  | missing => rfl
  | unlisted => rfl
  | listed rows => exact congrArg RowTable.listed (map_eq_of_forall₂ same rows)

end RowTable

namespace Tables

structure Respells (s t : Tables) : Prop where
  modules : s.modules.Related ModuleRow.Respells t.modules
  assemblies : s.assemblies.Related AssemblyRow.Respells t.assemblies
  types : s.types.Related TypeRow.Respells t.types

def spelledOut (t : Tables) : Tables where
  modules := t.modules.map ModuleRow.spelledOut
  assemblies := t.assemblies.map AssemblyRow.spelledOut
  types := t.types.map TypeRow.spelledOut

/-- Tables are spelled out as their respellings are. -/
lemma Respells.spelledOut {s t : Tables} (respells : s.Respells t) : t.spelledOut = s.spelledOut := by
  have modules : t.modules.map ModuleRow.spelledOut = s.modules.map ModuleRow.spelledOut :=
    respells.modules.map fun _ _ row => row.spelledOut
  have assemblies : t.assemblies.map AssemblyRow.spelledOut =
      s.assemblies.map AssemblyRow.spelledOut :=
    respells.assemblies.map fun _ _ row => row.spelledOut
  have types : t.types.map TypeRow.spelledOut = s.types.map TypeRow.spelledOut :=
    respells.types.map fun _ _ row => row.spelledOut
  rw [Tables.spelledOut, modules, assemblies, types]
  rfl

variable (t : Tables)

/-- Spelling out does not change the name of the module. -/
@[simp] lemma moduleName_spelledOut : t.spelledOut.moduleName = t.moduleName := by
  rw [moduleName, moduleName, spelledOut, RowTable.rows_map]
  cases t.modules.rows <;> rfl

/-- Spelling out does not change the assembly. -/
@[simp] lemma assembly_spelledOut : t.spelledOut.assembly = t.assembly := by
  rw [assembly, assembly, spelledOut, RowTable.rows_map]
  cases t.assemblies.rows <;> rfl

/-- Spelling out does not change the types of rows. -/
lemma typesFrom_spelledOut (rows : List TypeRow) (position : Nat) :
    typesFrom position (rows.map TypeRow.spelledOut) = typesFrom position rows := by
  induction rows generalizing position with
  | nil => rfl
  | cons row rest ih =>
    rw [List.map_cons, typesFrom, typesFrom, ih]
    rfl

/-- Spelling out does not change the types. -/
@[simp] lemma typeList_spelledOut : t.spelledOut.typeList = t.typeList := by
  rw [typeList, typeList, spelledOut, RowTable.rows_map, typesFrom_spelledOut]

end Tables

/-! ## Metadata -/

namespace Metadata

inductive Respells : Metadata → Metadata → Prop where
  | same m :
    Respells m m
  | tables {s t} :
    s.Respells t →
    Respells (.tables s) (.tables t)

def spelledOut : Metadata → Metadata
  | .headerless => .headerless
  | .tableless => .tableless
  | .tables t => .tables t.spelledOut

/-- Metadata are spelled out as their respellings are. -/
lemma Respells.spelledOut {m n : Metadata} (respells : m.Respells n) :
    n.spelledOut = m.spelledOut := by
  cases respells with
  | same => rfl
  | tables t => exact congrArg Metadata.tables t.spelledOut

variable (m : Metadata)

/-- Spelling metadata out does not change the name of the module. -/
@[simp] lemma moduleName_spelledOut : m.spelledOut.moduleName = m.moduleName := by
  cases m with
  | tables t => exact congrArg Except.ok t.moduleName_spelledOut
  | _ => rfl

/-- Spelling metadata out does not change the assembly. -/
@[simp] lemma assembly_spelledOut : m.spelledOut.assembly = m.assembly := by
  cases m with
  | tables t => exact t.assembly_spelledOut
  | _ => rfl

/-- Spelling metadata out does not change the types. -/
@[simp] lemma typeList_spelledOut : m.spelledOut.typeList = m.typeList := by
  cases m with
  | tables t => exact congrArg Except.ok t.typeList_spelledOut
  | _ => rfl

/-- Metadata that a row is added to are spelled out with the row. -/
lemma addType_spelledOut (row : TypeRow) :
    m.spelledOut.addType row.spelledOut = (m.addType row).map spelledOut := by
  cases m with
  | tables t =>
    obtain ⟨modules, assemblies, types⟩ := t
    cases types with
    | listed rows =>
      simp only [spelledOut, addType, tablesFor, bind, Except.bind, Tables.spelledOut, RowTable.map]
      rw [show [row.spelledOut] = [row].map TypeRow.spelledOut from rfl, ← List.map_append]
      rfl
    | _ => rfl
  | _ => rfl

end Metadata

namespace MetadataOutcome

inductive Respells : MetadataOutcome → MetadataOutcome → Prop where
  | same outcome :
    Respells outcome outcome
  | opened {m n} :
    m.Respells n →
    Respells (.opened m) (.opened n)

def spelledOut : MetadataOutcome → MetadataOutcome
  | .raised text => .raised text
  | .opened m => .opened m.spelledOut

/-- Answers of a reader are spelled out as their respellings are. -/
lemma Respells.spelledOut {x y : MetadataOutcome} (respells : x.Respells y) :
    y.spelledOut = x.spelledOut := by
  cases respells with
  | same => rfl
  | opened m => exact congrArg MetadataOutcome.opened m.spelledOut

end MetadataOutcome

end PEInspect
