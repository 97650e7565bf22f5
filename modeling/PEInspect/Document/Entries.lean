/-!
# Entries

Key-value pairs in the order in which the keys first came: the shape of a table in a document and
of every small dictionary of this library. Reading is `List.lookup`; writing replaces the value of
a key in place, or appends the pair when the key is new.
-/

namespace PEInspect.Document

/-- Pairs of a key and a value, in order of first insertion. -/
abbrev Entries (κ ν : Type) := List (κ × ν)

namespace Entries

variable {κ ν : Type} [BEq κ]

/-- Writes a value under a key. -/
def insert (entries : Entries κ ν) (key : κ) (value : ν) : Entries κ ν :=
  match entries with
  | [] => [(key, value)]
  | (k, v) :: rest => if k == key then (k, value) :: rest else (k, v) :: insert rest key value

/-- Writes a value under a key that has none yet. -/
def insertNew (entries : Entries κ ν) (key : κ) (value : ν) : Entries κ ν :=
  if (entries.lookup key).isSome then entries else entries ++ [(key, value)]

/-- Removes the pair of a key. -/
def erase (entries : Entries κ ν) (key : κ) : Entries κ ν :=
  entries.filter fun e => !(e.1 == key)

/-- Whether a key has a value. -/
def has (entries : Entries κ ν) (key : κ) : Bool :=
  (entries.lookup key).isSome

/-- The entries that a list of pairs leaves when it is written from the front. -/
def ofPairs (pairs : List (κ × ν)) : Entries κ ν :=
  pairs.foldl (fun entries e => entries.insert e.1 e.2) []

/-- A key that has been inserted has its value, and the others are found as before. -/
theorem lookup_insert [LawfulBEq κ] (entries : Entries κ ν) (key : κ) (value : ν) (k : κ) :
    (entries.insert key value).lookup k = if k == key then some value else entries.lookup k := by
  induction entries with
  | nil => by_cases h : k == key <;> simp [insert, List.lookup_cons, h]
  | cons e rest ih =>
    obtain ⟨k', v⟩ := e
    by_cases hk : k' == key
    · obtain rfl := eq_of_beq hk
      by_cases h : k == k' <;> simp [insert, List.lookup_cons, h]
    · by_cases h : k == k'
      · have hne : (k == key) = false := by
          obtain rfl := eq_of_beq h
          simpa using hk
        simp [insert, hk, List.lookup_cons, h, hne]
      · simp [insert, hk, List.lookup_cons, h, ih]

/-- A key that is inserted where it is new keeps a value that it has. -/
theorem lookup_insertNew [LawfulBEq κ] (entries : Entries κ ν) (key : κ) (value : ν) (k : κ) :
    (entries.insertNew key value).lookup k =
      (entries.lookup k).or (if k == key then some value else none) := by
  by_cases present : (entries.lookup key).isSome
  · rw [insertNew, if_pos present]
    by_cases h : k = key
    · subst h
      obtain ⟨v, found⟩ := Option.isSome_iff_exists.mp present
      simp [found]
    · simp [h]
  · have single : List.lookup k [(key, value)] = if k == key then some value else none := by
      by_cases h : k = key
      · simp [h]
      · simp [List.lookup_cons, beq_eq_false_iff_ne.mpr h]
    rw [insertNew, if_neg present, List.lookup_append, single]

/-- A key that has been erased is gone, and the others are found as before. -/
theorem lookup_erase [LawfulBEq κ] (entries : Entries κ ν) (key : κ) (k : κ) :
    (entries.erase key).lookup k = if k == key then none else entries.lookup k := by
  induction entries with
  | nil => simp [erase]
  | cons e rest ih =>
    obtain ⟨k', v⟩ := e
    by_cases hk : k' = key
    · subst hk
      have step : erase ((k', v) :: rest) k' = erase rest k' := by simp [erase]
      rw [step, ih]
      by_cases h : k = k'
      · simp [h]
      · simp [List.lookup_cons, beq_eq_false_iff_ne.mpr h]
    · have step : erase ((k', v) :: rest) key = (k', v) :: erase rest key := by simp [erase, hk]
      rw [step, List.lookup_cons, List.lookup_cons, ih]
      by_cases h : k = k'
      · subst h
        simp [hk]
      · simp [beq_eq_false_iff_ne.mpr h]

end Entries

end PEInspect.Document
