import Mathlib.Tactic.Lemma
import PEInspect.Path.Basic

/-!
# Normal paths

A path whose names are names, none of them with a slash, is normal. Reading makes normal paths
(`normal_read`), and writing loses nothing of one (`read_write`), so that a text in normal form stays
as it is. The components of a written path are those of its root and its names (`splitSlash_write`),
and no character is lost on the way but slashes and dots (`mem_write_read`).
-/

namespace PEInspect.Path

/-! ## Splitting -/

/-- A text has at least one component. -/
lemma splitSlash_ne_nil (s : List Char) : splitSlash s ≠ [] := by
  cases s with
  | nil => simp [splitSlash]
  | cons c rest =>
    rw [splitSlash]
    split
    · exact List.cons_ne_nil _ _
    · split <;> exact List.cons_ne_nil _ _

/-- A slash in front of a text makes an empty first component. -/
lemma splitSlash_slash (s : List Char) : splitSlash ('/' :: s) = [] :: splitSlash s := by
  rw [splitSlash, if_pos rfl]

/-- Another character in front of a text belongs to its first component. -/
lemma splitSlash_other {c : Char} {s first others} (other : c ≠ '/')
    (e : splitSlash s = first :: others) : splitSlash (c :: s) = (c :: first) :: others := by
  rw [splitSlash, if_neg other, e]

/-- No component holds a slash. -/
lemma slash_notMem_splitSlash (s : List Char) : ∀ p ∈ splitSlash s, '/' ∉ p := by
  induction s with
  | nil => simp [splitSlash]
  | cons c rest ih =>
    obtain ⟨first, others, e⟩ := List.exists_cons_of_ne_nil (splitSlash_ne_nil rest)
    intro p mem
    by_cases slash : c = '/'
    · rw [slash, splitSlash_slash] at mem
      cases mem with
      | head => exact List.not_mem_nil
      | tail _ mem => exact ih p mem
    · rw [splitSlash_other slash e] at mem
      rw [e] at ih
      cases mem with
      | head =>
        intro mem
        cases mem with
        | head => exact slash rfl
        | tail _ mem => exact ih first List.mem_cons_self mem
      | tail _ mem => exact ih p (List.mem_cons_of_mem _ mem)

/-- A text without a slash is its own component. -/
lemma splitSlash_free {s : List Char} (free : '/' ∉ s) : splitSlash s = [s] := by
  induction s with
  | nil => rfl
  | cons c rest ih =>
    have other : c ≠ '/' := fun e => free (e ▸ List.mem_cons_self)
    exact splitSlash_other other (ih fun mem => free (List.mem_cons_of_mem _ mem))

/-- A first component without a slash is split off. -/
lemma splitSlash_append {p : List Char} (free : '/' ∉ p) (s : List Char) :
    splitSlash (p ++ '/' :: s) = p :: splitSlash s := by
  induction p with
  | nil => exact splitSlash_slash s
  | cons c rest ih =>
    have other : c ≠ '/' := fun e => free (e ▸ List.mem_cons_self)
    exact splitSlash_other other (ih fun mem => free (List.mem_cons_of_mem _ mem))

/-- Splitting undoes joining. -/
lemma splitSlash_joinSlash {parts : List (List Char)} (some_ : parts ≠ [])
    (free : ∀ p ∈ parts, '/' ∉ p) : splitSlash (joinSlash parts) = parts := by
  induction parts with
  | nil => exact absurd rfl some_
  | cons p rest ih =>
    cases rest with
    | nil => exact splitSlash_free (free p List.mem_cons_self)
    | cons q others =>
      rw [joinSlash, splitSlash_append (free p List.mem_cons_self)]
      · rw [ih (List.cons_ne_nil _ _) fun r mem => free r (List.mem_cons_of_mem _ mem)]
      · exact nofun

/-! ## Names -/

/-- Names are not empty. -/
lemma ne_nil_of_isName {n : List Char} (name : isName n = true) : n ≠ [] := by
  intro e
  subst e
  cases name

/-- A text of two characters or more is a name. -/
lemma isName_of_length {n : List Char} (long : 2 ≤ n.length) : isName n = true := by
  cases n with
  | nil => cases long
  | cons c rest =>
    cases rest with
    | nil => exact absurd long (by simp)
    | cons d others => simp [isName]

/-- A text with another character than a dot is a name. -/
lemma isName_of_mem {c : Char} {n : List Char} (dot : c ≠ '.') (mem : c ∈ n) : isName n = true := by
  cases n with
  | nil => cases mem
  | cons d rest =>
    have single : d :: rest ≠ ['.'] := by
      rintro ⟨⟩
      exact dot (List.mem_singleton.mp mem)
    rw [isName, beq_eq_false_iff_ne.mpr single]
    rfl

/-- A path whose names are names without slashes. -/
structure Normal (p : Path) : Prop where
  names : ∀ n ∈ p.parts, isName n = true
  free : ∀ n ∈ p.parts, '/' ∉ n

/-- The parts of a path end with its name, if there are any. -/
lemma parts_eq {p : Path} (some_ : p.parts ≠ []) : p.parts = p.parts.dropLast ++ [p.name] := by
  have name : p.name = p.parts.getLast some_ := by
    rw [Path.name, List.getLast?_eq_some_getLast some_]
    rfl
  rw [name]
  exact (List.dropLast_concat_getLast some_).symm

/-- The name of a path is one of its parts, if there are any. -/
lemma name_mem {p : Path} (some_ : p.parts ≠ []) : p.name ∈ p.parts := by
  rw [parts_eq some_]
  exact List.mem_append_right _ List.mem_cons_self

/-- Reading makes normal paths. -/
lemma normal_read (s : List Char) : (read s).Normal where
  names _ mem := (List.mem_filter.mp mem).2
  free n mem := slash_notMem_splitSlash s n (List.mem_filter.mp mem).1

/-- The empty components in front of the names of a path with a root. -/
def leading : Root → List (List Char)
  | .relative => []
  | .slash => [[]]
  | .doubleSlash => [[], []]

/-- What stands in front of the names is no name. -/
lemma filter_leading (r : Root) : (leading r).filter isName = [] := by
  cases r <;> rfl

/-- The text of a path with names, of which none is empty, starts with its root. -/
lemma write_eq {p : Path} (some_ : p.parts ≠ []) (names : ∀ n ∈ p.parts, isName n = true) :
    p.write = Root.chars p.root ++ joinSlash p.parts := by
  obtain ⟨first, others, e⟩ := List.exists_cons_of_ne_nil some_
  have full : first ≠ [] := ne_nil_of_isName (names first (e ▸ List.mem_cons_self))
  have text : Root.chars p.root ++ joinSlash p.parts ≠ [] := by
    rw [e]
    cases others <;> simp [joinSlash, full]
  rw [write]
  split
  · rename_i blank
    exact absurd blank text
  · rfl

/-- The components of the text of a path. -/
lemma splitSlash_write {p : Path} (some_ : p.parts ≠ []) (normal : p.Normal) :
    splitSlash p.write = leading p.root ++ p.parts := by
  rw [write_eq some_ normal.names]
  have rest := splitSlash_joinSlash some_ normal.free
  cases p.root with
  | relative => exact rest
  | slash => exact (splitSlash_slash _).trans (congrArg _ rest)
  | doubleSlash =>
    refine (splitSlash_slash _).trans (congrArg _ ?_)
    exact (splitSlash_slash _).trans (congrArg _ rest)

/-- The root that the text of a root and some names starts with. -/
lemma rootOf_append {r : Root} {c : Char} (s : List Char) (other : c ≠ '/') :
    rootOf (Root.chars r ++ c :: s) = r := by
  cases r with
  | relative =>
    simp only [Root.chars, List.nil_append]
    rw [rootOf]
    all_goals simp [other]
  | slash =>
    simp only [Root.chars, List.cons_append, List.nil_append]
    rw [rootOf]
    all_goals simp [other]
  | doubleSlash =>
    simp only [Root.chars, List.cons_append, List.nil_append]
    rw [rootOf]
    simp [other]

/-- A name without slashes is read as the path of that name. -/
lemma read_name {n : List Char} (name : isName n = true) (free : '/' ∉ n) :
    read n = ⟨.relative, [n]⟩ := by
  obtain ⟨c, s, rfl⟩ := List.exists_cons_of_ne_nil (ne_nil_of_isName name)
  have other : c ≠ '/' := fun e => free (e ▸ List.mem_cons_self)
  have root : rootOf (c :: s) = .relative := rootOf_append (r := .relative) s other
  rw [read, root, splitSlash_free free, List.filter_cons_of_pos name, List.filter_nil]

/-- The first character of the names of a normal path is no slash. -/
lemma joinSlash_cons {parts : List (List Char)} (some_ : parts ≠ [])
    (names : ∀ n ∈ parts, isName n = true) (free : ∀ n ∈ parts, '/' ∉ n) :
    ∃ c s, joinSlash parts = c :: s ∧ c ≠ '/' := by
  obtain ⟨first, others, rfl⟩ := List.exists_cons_of_ne_nil some_
  have full : first ≠ [] := ne_nil_of_isName (names first List.mem_cons_self)
  obtain ⟨c, s, rfl⟩ := List.exists_cons_of_ne_nil full
  have other : c ≠ '/' := fun e => free _ List.mem_cons_self (e ▸ List.mem_cons_self)
  cases others with
  | nil => exact ⟨c, s, rfl, other⟩
  | cons q rest => exact ⟨c, s ++ '/' :: joinSlash (q :: rest), rfl, other⟩

/-- Reading undoes writing. -/
lemma read_write {p : Path} (normal : p.Normal) : read p.write = p := by
  by_cases blank : p.parts = []
  -- A path without names is written as its root, or as a dot.
  · obtain ⟨root, parts⟩ := p
    cases blank
    cases root <;> rfl
  · obtain ⟨c, s, e, other⟩ := joinSlash_cons blank normal.names normal.free
    have root : rootOf p.write = p.root := by
      rw [write_eq blank normal.names, e]
      exact rootOf_append s other
    have parts : (splitSlash p.write).filter isName = p.parts := by
      rw [splitSlash_write blank normal, List.filter_append, filter_leading]
      exact List.filter_eq_self.mpr normal.names
    rw [read, root, parts]

/-- The text of a path is not empty. -/
lemma isEmpty_toString (p : Path) : p.toString.isEmpty = false := by
  rw [toString, write]
  split
  · rfl
  · rename_i full
    simpa using full

/-- The text of a path that has been read leads to that path. -/
lemma ofString_toString (s : String) : ofString (ofString s).toString = ofString s := by
  rw [ofString, toString, String.toList_ofList]
  exact read_write (normal_read s.toList)

/-- A text in normal form stays as it is. -/
lemma normalize_normalize (s : String) : normalize (normalize s) = normalize s :=
  congrArg toString (ofString_toString s)

/-! ## Characters -/

section Characters

variable {c : Char}

/-- Splitting keeps all characters but slashes. -/
lemma mem_splitSlash (other : c ≠ '/') (s : List Char) : (∃ p ∈ splitSlash s, c ∈ p) ↔ c ∈ s := by
  induction s with
  | nil => simp [splitSlash]
  | cons d rest ih =>
    by_cases slash : d = '/'
    · rw [slash, splitSlash_slash, List.mem_cons]
      simp [other, ih]
    · obtain ⟨first, others, e⟩ := List.exists_cons_of_ne_nil (splitSlash_ne_nil rest)
      rw [e] at ih
      rw [splitSlash_other slash e, List.mem_cons, ← ih]
      simp [or_assoc]

/-- Joining adds nothing but slashes. -/
lemma mem_joinSlash (other : c ≠ '/') (parts : List (List Char)) :
    c ∈ joinSlash parts ↔ ∃ p ∈ parts, c ∈ p := by
  induction parts with
  | nil => simp [joinSlash]
  | cons p rest ih =>
    cases rest with
    | nil => simp [joinSlash]
    | cons q others =>
      have step : joinSlash (p :: q :: others) = p ++ '/' :: joinSlash (q :: others) := rfl
      rw [step, List.mem_append, List.mem_cons, ih]
      simp [other]

/-- Apart from slashes and dots, a path is written with the characters of its names. -/
lemma mem_write (other : c ≠ '/') (dot : c ≠ '.') (p : Path) :
    c ∈ p.write ↔ ∃ n ∈ p.parts, c ∈ n := by
  have root : c ∉ Root.chars p.root := by
    cases p.root <;> simp [Root.chars, other]
  have text : c ∈ Root.chars p.root ++ joinSlash p.parts ↔ ∃ n ∈ p.parts, c ∈ n := by
    rw [List.mem_append, mem_joinSlash other]
    simp [root]
  rw [write]
  split
  · rename_i blank
    rw [blank] at text
    simpa [dot] using text
  · exact text

/-- Reading a path and writing it keeps all characters but slashes and dots. -/
lemma mem_write_read (other : c ≠ '/') (dot : c ≠ '.') (s : List Char) :
    c ∈ (read s).write ↔ c ∈ s := by
  rw [mem_write other dot, ← mem_splitSlash other s]
  constructor
  · rintro ⟨n, mem, inside⟩
    exact ⟨n, (List.mem_filter.mp mem).1, inside⟩
  · rintro ⟨n, mem, inside⟩
    exact ⟨n, List.mem_filter.mpr ⟨mem, isName_of_mem dot inside⟩, inside⟩

end Characters

end PEInspect.Path
