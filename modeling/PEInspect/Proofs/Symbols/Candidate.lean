import PEInspect.Config.Checks
import PEInspect.Proofs.Path.Normal
import PEInspect.Proofs.Path.Stem
import PEInspect.Symbols

/-!
# Candidates

For an extension of two characters or more without a slash, and so for every one that a configuration
is not warned about, looking for the candidate of a location never fails: whatever the last name is,
its stem with the extension can take its place (`candidate_eq`).
-/

namespace PEInspect

namespace Path

/-- A name without slashes can take the place of a name. -/
lemma acceptsName_of_isName {n : List Char} (name : isName n = true) (free : '/' ∉ n) :
    acceptsName n = true := by
  have ends : n.getLast? ≠ some '/' := fun e => free (List.mem_of_getLast? e)
  rw [acceptsName, read_name name free]
  simpa using ends

/-- The last name of a normal path holds no slash. -/
lemma Normal.name {p : Path} (normal : p.Normal) : '/' ∉ p.name := by
  rw [Path.name]
  cases last : p.parts.getLast? with
  | none => exact List.not_mem_nil
  | some n => exact normal.free n (List.mem_of_getLast? last)

end Path

namespace Symbols

/-- An extension makes a name of every stem: it has two characters or more, none of them a slash. -/
structure MakesNames (extension : String) : Prop where
  long : 2 ≤ extension.toList.length
  free : '/' ∉ extension.toList

variable {extension : String}

/-- An extension without warnings makes names. -/
lemma makesNames_of_valid (valid : Config.extensionWarnings extension = []) :
    MakesNames extension := by
  rw [Config.extensionWarnings, List.append_eq_nil_iff] at valid
  obtain ⟨shaped, whole⟩ := valid
  constructor
  · by_cases short : extension.length < 2
    · simp [short] at shaped
    · rw [String.length_toList]
      exact Nat.le_of_not_lt short
  · intro slash
    simp [slash] at whole

/-- A dot and something behind it, none of it a slash, makes names. -/
lemma makesNames_of_dotted
    (dotted : ∃ rest, extension.toList = '.' :: rest ∧ rest ≠ [] ∧ '/' ∉ rest) :
    MakesNames extension := by
  obtain ⟨rest, chars, full, free⟩ := dotted
  constructor
  · rw [chars, List.length_cons]
    exact Nat.succ_le_succ (List.length_pos_iff.mpr full)
  · rw [chars, List.mem_cons, not_or]
    exact ⟨by decide, free⟩

/-- The path beside another one: its last name with the extension replaced. -/
def beside (p : Path) (extension : String) : Path :=
  ⟨p.root, p.parts.dropLast ++ [p.stem ++ extension.toList]⟩

/-- The name of the path beside another one is its stem with the extension. -/
lemma name_beside (p : Path) (extension : String) :
    (beside p extension).name = p.stem ++ extension.toList := by
  rw [Path.name, beside, List.getLast?_concat]
  rfl

/-- The path beside another one is in the same directory. -/
lemma parent_beside (p : Path) (extension : String) :
    Disk.parent (beside p extension) = Disk.parent p := by
  rw [Disk.parent, beside, List.dropLast_concat]
  rfl

/-- A stem with such an extension is a name. -/
lemma isName_beside (p : Path) (makes : MakesNames extension) :
    Path.isName (p.stem ++ extension.toList) = true := by
  apply Path.isName_of_length
  rw [List.length_append]
  exact Nat.le_add_left_of_le makes.long

/-- A stem with such an extension holds no slash. -/
lemma free_beside {p : Path} (normal : p.Normal) (makes : MakesNames extension) :
    '/' ∉ p.stem ++ extension.toList := by
  intro mem
  cases List.mem_append.mp mem with
  | inl mem => exact normal.name ((Path.stemOf_prefix p.name).subset mem)
  | inr mem => exact makes.free mem

/-- The names of the path beside a normal path are names. -/
lemma normal_beside {p : Path} (normal : p.Normal) (makes : MakesNames extension) :
    (beside p extension).Normal := by
  constructor
  · intro n mem
    rcases List.mem_append.mp mem with mem | mem
    · exact normal.names n ((List.dropLast_sublist _).subset mem)
    · rw [List.mem_singleton.mp mem]
      exact isName_beside p makes
  · intro n mem
    rcases List.mem_append.mp mem with mem | mem
    · exact normal.free n ((List.dropLast_sublist _).subset mem)
    · rw [List.mem_singleton.mp mem]
      exact free_beside normal makes

/-- The candidate stands beside the location, if that has a last name. -/
lemma candidate_eq (location : String) (makes : MakesNames extension) :
    candidate location extension = .ok (if (Path.ofString location).name = [] then none
      else some (beside (Path.ofString location) extension)) := by
  have accepted := Path.acceptsName_of_isName (isName_beside (Path.ofString location) makes)
    (free_beside (Path.normal_read location.toList) makes)
  rw [candidate]
  by_cases blank : location = ""
  · subst blank
    rfl
  · have text : location.isEmpty = false := by simpa using blank
    rw [text]
    by_cases bare : (Path.ofString location).name = []
    · simp [bare]
    · simp only [bare, if_false, Path.withName?, accepted, if_true, Bool.false_eq_true]
      rfl

end Symbols

end PEInspect
