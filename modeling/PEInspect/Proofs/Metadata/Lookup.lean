import Mathlib.Tactic.Lemma
import PEInspect.Metadata.Lookup

/-!
# Types by name

Both ways of finding a type come to the first row of the type table with its namespace and name.
`FirstRow` says so in terms of the rows alone, and holds of what a scan of the types finds as well as
of what stands in an index over them. Rows that are added behind the others do not change which row
a type is found in, but may make one be found.
-/

namespace PEInspect

/-- A row describes a type with a namespace and a name. -/
def TypeRow.Named (row : TypeRow) (space name : String) : Prop :=
  row.space.display = space ∧ row.name.display = name

/-- The type in the first row with a namespace and a name, if there is such a row. -/
inductive FirstRow (rows : List TypeRow) (space name : String) : Option TypeInfo → Prop where
  | missing :
    (∀ row ∈ rows, ¬ row.Named space name) →
    FirstRow rows space name none
  | found {before row after} :
    rows = before ++ row :: after →
    (∀ row ∈ before, ¬ row.Named space name) →
    row.Named space name →
    FirstRow rows space name (some (row.info (before.length + 1)))

namespace FirstRow

variable {rows : List TypeRow} {space name : String}

/-- Rows that are added at the end do not change which row a type is found in. -/
lemma append {t : TypeInfo} (first : FirstRow rows space name (some t)) (more : List TypeRow) :
    FirstRow (rows ++ more) space name (some t) := by
  cases first with
  | @found before row after split none_ named =>
    have split : rows ++ more = before ++ row :: (after ++ more) := by
      rw [split, List.append_assoc, List.cons_append]
    exact .found split none_ named

/-- There is one first row at most. -/
lemma unique {x y : Option TypeInfo} (first : FirstRow rows space name x)
    (second : FirstRow rows space name y) : x = y := by
  cases first with
  | missing none_ =>
    cases second with
    | missing => rfl
    | found split _ named => exact absurd named (none_ _ (by simp [split]))
  | @found before row after split none_ named =>
    cases second with
    | missing none_' => exact absurd named (none_' _ (by simp [split]))
    | @found before' row' after' split' none_' named' =>
      have whole : before ++ row :: after = before' ++ row' :: after' := split.symm.trans split'
      rcases List.append_eq_append_iff.mp whole with ⟨more, rfl, rest⟩ | ⟨more, rfl, rest⟩
      · cases more with
        | nil =>
          cases rest
          rw [List.append_nil]
        | cons x more =>
          cases rest
          exact absurd named (none_' row (by simp))
      · cases more with
        | nil =>
          cases rest
          rw [List.append_nil]
        | cons x more =>
          cases rest
          exact absurd named' (none_ row' (by simp))

end FirstRow

/-- A scan of the types from a position on finds the first row, or there is none to find. -/
lemma firstNamed_typesFrom (rows : List TypeRow) (space name : String) (position : Nat) :
    (∀ row ∈ rows, ¬ row.Named space name) ∧
        firstNamed (typesFrom position rows) space name = none ∨
      ∃ before row after, rows = before ++ row :: after ∧
        (∀ row ∈ before, ¬ row.Named space name) ∧ row.Named space name ∧
        firstNamed (typesFrom position rows) space name =
          some (row.info (before.length + position)) := by
  induction rows generalizing position with
  | nil => exact .inl ⟨nofun, rfl⟩
  | cons row rest ih =>
    by_cases named : row.Named space name
    · refine .inr ⟨[], row, rest, rfl, nofun, named, ?_⟩
      obtain ⟨rfl, rfl⟩ := named
      simp [firstNamed, typesFrom, TypeRow.info]
    · have skip : firstNamed (typesFrom position (row :: rest)) space name
          = firstNamed (typesFrom (position + 1) rest) space name := by
        refine List.find?_cons_of_neg fun same => named ?_
        simpa [TypeRow.info, TypeRow.Named] using same
      rcases ih (position + 1) with ⟨none_, scan⟩ | ⟨before, found, after, rfl, none_, found_, scan⟩
      · refine .inl ⟨?_, skip.trans scan⟩
        rintro x (_ | ⟨_, mem⟩)
        · exact named
        · exact none_ x mem
      · refine .inr ⟨row :: before, found, after, rfl, ?_, found_, skip.trans (scan.trans ?_)⟩
        · rintro x (_ | ⟨_, mem⟩)
          · exact named
          · exact none_ x mem
        · rw [List.length_cons, Nat.add_right_comm, Nat.add_assoc]

/-- A search through the types comes to the first row with the name. -/
lemma firstRow_firstNamed (rows : List TypeRow) (space name : String) :
    FirstRow rows space name (firstNamed (typesFrom 1 rows) space name) := by
  rcases firstNamed_typesFrom rows space name 1 with
    ⟨none_, scan⟩ | ⟨before, row, after, split, none_, named, scan⟩
  · rw [scan]
    exact .missing none_
  · rw [scan]
    exact .found split none_ named

namespace TypeIndex

open Document

/-- What stands in an index and is added to it later is found from the front. -/
lemma lookup_foldl (types : List TypeInfo) (index : TypeIndex) (space name : String) :
    (types.foldl (fun index t => Entries.insertNew index (t.space, t.name) t) index).lookup
      (space, name) = (index.lookup (space, name)).or (firstNamed types space name) := by
  induction types generalizing index with
  | nil => simp [firstNamed]
  | cons t rest ih =>
    rw [List.foldl_cons, ih, Entries.lookup_insertNew, Option.or_assoc]
    congr 1
    by_cases same : t.space = space ∧ t.name = name
    · obtain ⟨rfl, rfl⟩ := same
      simp [firstNamed]
    · have other : ((space, name) == (t.space, t.name)) = false := by
        refine beq_eq_false_iff_ne.mpr fun e => same ?_
        cases e
        exact ⟨rfl, rfl⟩
      have skip : firstNamed (t :: rest) space name = firstNamed rest space name :=
        List.find?_cons_of_neg fun e => same (by simpa using e)
      rw [skip, other]
      rfl

/-- The index over the types finds what a scan finds. -/
lemma lookup_ofList (types : List TypeInfo) (space name : String) :
    (ofList types).lookup (space, name) = firstNamed types space name :=
  lookup_foldl types [] space name

end TypeIndex

end PEInspect
