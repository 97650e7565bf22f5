import PEInspect.Proofs.ShortName
import PEInspect.Proofs.Symbols.Candidate

/-!
# Base names of candidates

A candidate is made of the base name of a location, and its extension can be taken off again. So a
candidate is its own candidate, and it does not matter how a location is spelled (`candidate_again`).
Paths and display names take extensions off by rules of their own: a dot at the end, several dots at
the start, and backslashes set them apart. Where none of these stand, a file and its candidate are
shown under one name (`candidate_shares_name`).
-/

namespace PEInspect

/-- What can follow the dot of an extension. -/
structure IsSuffix (e : String) : Prop where
  full : e ≠ ""
  undotted : '.' ∉ e.toList
  unslashed : '/' ∉ e.toList

/-- A suffix behind a dot makes names. -/
lemma IsSuffix.makesNames {e : String} (suffix : IsSuffix e) : Symbols.MakesNames ("." ++ e) := by
  apply Symbols.makesNames_of_dotted
  refine ⟨e.toList, ?_, ?_, suffix.unslashed⟩
  · exact String.toList_append
  · simpa using suffix.full

/-- A path has no last name if no component is a name. -/
lemma Path.name_eq_nil_iff (s : String) :
    (ofString s).name = [] ↔ ∀ n ∈ splitSlash s.toList, isName n = false := by
  have names : (ofString s).parts = (splitSlash s.toList).filter isName := rfl
  rw [name, names]
  constructor
  · intro blank n mem
    cases named : isName n with
    | false => rfl
    | true =>
      -- With a name among the components there is a last one, and names are not empty.
      have some_ : (splitSlash s.toList).filter isName ≠ [] :=
        List.ne_nil_of_mem (List.mem_filter.mpr ⟨mem, named⟩)
      have last := List.getLast_mem some_
      rw [List.getLast?_eq_some_getLast some_] at blank
      exact absurd blank (ne_nil_of_isName (List.mem_filter.mp last).2)
  · intro none_
    have empty : (splitSlash s.toList).filter isName = [] := by
      rw [List.filter_eq_nil_iff]
      intro n mem named
      exact absurd (none_ n mem) (ne_false_of_eq_true named)
    rw [empty]
    rfl

namespace Symbols

variable {e : String} {p : Path}

/-! ## Candidates of candidates -/

/-- Taking the extension off again leaves the stem. -/
lemma stem_beside (suffix : IsSuffix e) (full : p.name ≠ []) :
    (beside p ("." ++ e)).stem = p.stem := by
  have some_ : e.toList ≠ [] := by simpa using suffix.full
  rw [Path.stem, name_beside, String.toList_append]
  exact Path.stemOf_append (Path.stemOf_ne_nil full) some_ suffix.undotted

/-- The path beside the path beside another one is that path again. -/
lemma beside_beside (suffix : IsSuffix e) (full : p.name ≠ []) :
    beside (beside p ("." ++ e)) ("." ++ e) = beside p ("." ++ e) := by
  have stem := stem_beside suffix full
  rw [beside, stem, beside, List.dropLast_concat]

/-- The text of a candidate is read as the candidate. -/
lemma ofString_beside (suffix : IsSuffix e) (location : String) :
    Path.ofString (beside (.ofString location) ("." ++ e)).toString =
      beside (.ofString location) ("." ++ e) := by
  have normal := normal_beside (Path.normal_read location.toList) suffix.makesNames
  rw [Path.ofString, Path.toString, String.toList_ofList]
  exact Path.read_write normal

/-- A location has no candidate exactly if it is made of slashes and single dots. Otherwise its
candidate is also that of its normal form, is in normal form itself, and is its own candidate. -/
theorem candidate_again (suffix : IsSuffix e) (location : String) :
    (∃ found, candidate location ("." ++ e) = .ok found ∧
      (found = none ↔ ∀ n ∈ Path.splitSlash location.toList, Path.isName n = false)) ∧
    (location ≠ "" →
      candidate location ("." ++ e) = candidate (Path.normalize location) ("." ++ e)) ∧
    ∀ q, candidate location ("." ++ e) = .ok (some q) →
      Path.ofString q.toString = q ∧ Path.normalize q.toString = q.toString ∧
        candidate q.toString ("." ++ e) = .ok (some q) := by
  have rule (l : String) := candidate_eq l suffix.makesNames
  refine ⟨⟨_, rule location, ?_⟩, ?_, ?_⟩
  · rw [← Path.name_eq_nil_iff]
    split <;> simp [*]
  · intro _
    rw [rule, rule, Path.normalize, Path.ofString_toString]
  · intro q found
    rw [rule] at found
    split at found
    · cases found
    · rename_i full
      cases found
      have again := ofString_beside suffix location
      refine ⟨again, ?_, ?_⟩
      · rw [Path.normalize, again]
      · have full' : (beside (.ofString location) ("." ++ e)).name ≠ [] := by
          rw [name_beside]
          simp
        rw [rule, again, if_neg full', beside_beside suffix full]

/-- The name `..` is kept as it is, with the extension behind it. -/
theorem candidate_again_up :
    IsSuffix "pdb" ∧ ∃ q, candidate ".//lib/../" ("." ++ "pdb") = .ok (some q) ∧
      q.toString = "lib/...pdb" ∧ Path.normalize q.toString = q.toString ∧
      candidate q.toString ("." ++ "pdb") = .ok (some q) := by
  have suffix : IsSuffix "pdb" := ⟨by decide, by decide, by decide⟩
  have found : candidate ".//lib/../" ("." ++ "pdb") =
      .ok (some ⟨.relative, ["lib".toList, "...pdb".toList]⟩) := by decide +kernel
  obtain ⟨-, -, again⟩ := candidate_again suffix ".//lib/../"
  obtain ⟨-, normal, own⟩ := again _ found
  exact ⟨suffix, _, found, by decide +kernel, normal, own⟩

end Symbols

/-! ## Shared names -/

/-- The last of the components that slashes separate. -/
inductive LastComponent : String → String → Prop where
  | alone {c} : '/' ∉ c.toList → LastComponent c c
  | below {d c} : '/' ∉ c.toList → LastComponent (d ++ "/" ++ c) c

/-- What stands in front of the last dot of a component, if that is not its first character, and
otherwise the whole component. -/
inductive BaseName : String → String → Prop where
  | cut {s e} : s ≠ "" → '.' ∉ e.toList → BaseName (s ++ "." ++ e) s
  | whole {c} : (∀ s e, c = s ++ "." ++ e → s = "") → BaseName c c

/-- A component from which display names and paths take the same off. -/
structure Regular (c : String) : Prop where
  straight : '\\' ∉ c.toList
  start : ¬ "..".toList <+: c.toList
  stop : c.toList.getLast? ≠ some '.'

variable {location c s e : String}

/-! ### Last components -/

/-- A component behind the last slash is the last one. -/
lemma Path.splitSlash_concat (d : List Char) {n : List Char} (free : '/' ∉ n) :
    splitSlash (d ++ '/' :: n) = splitSlash d ++ [n] := by
  induction d with
  | nil =>
    rw [List.nil_append, splitSlash_slash, splitSlash_free free]
    rfl
  | cons x d ih =>
    by_cases slash : x = '/'
    · rw [slash, List.cons_append, splitSlash_slash, splitSlash_slash, ih]
      rfl
    · obtain ⟨first, others, split⟩ := List.exists_cons_of_ne_nil (splitSlash_ne_nil d)
      rw [split] at ih
      rw [List.cons_append, splitSlash_other slash ih, splitSlash_other slash split]
      rfl

/-- Every location has a last component. -/
lemma exists_lastComponent (location : String) : ∃ c, LastComponent location c := by
  by_cases slash : '/' ∈ location.toList.reverse
  -- The first slash from behind is the last one.
  · obtain ⟨back, front, split, free⟩ := List.eq_append_cons_of_mem slash
    have text : location = .ofList front.reverse ++ "/" ++ .ofList back.reverse := by
      apply String.toList_injective
      rw [← List.reverse_reverse location.toList, split]
      simp
    refine ⟨.ofList back.reverse, ?_⟩
    rw [text]
    apply LastComponent.below
    simpa using free
  · exact ⟨location, .alone (by simpa using slash)⟩

/-- The last component is the last one between slashes. -/
lemma LastComponent.getLast?_splitSlash (last : LastComponent location c) :
    (Path.splitSlash location.toList).getLast? = some c.toList := by
  cases last with
  | alone free =>
    rw [Path.splitSlash_free free]
    rfl
  | @below d c free =>
    have text : (d ++ "/" ++ c).toList = d.toList ++ '/' :: c.toList := by simp
    rw [text, Path.splitSlash_concat _ free, List.getLast?_concat]

/-- The last component is read off the components of a text. -/
lemma lastComponent_of_getLast? (last : (Path.splitSlash location.toList).getLast? = some c.toList) :
    LastComponent location c := by
  obtain ⟨c', last'⟩ := exists_lastComponent location
  have same : c'.toList = c.toList := Option.some.inj (last'.getLast?_splitSlash.symm.trans last)
  exact String.toList_injective same ▸ last'

/-- The last component is the name of the path, if it is a name. -/
lemma LastComponent.name (last : LastComponent location c) (named : Path.isName c.toList = true) :
    (Path.ofString location).name = c.toList := by
  obtain ⟨front, split⟩ := List.getLast?_eq_some_iff.mp last.getLast?_splitSlash
  have parts : (Path.ofString location).parts = front.filter Path.isName ++ [c.toList] := by
    show (Path.splitSlash location.toList).filter Path.isName = _
    rw [split, List.filter_append, List.filter_cons_of_pos named, List.filter_nil]
  rw [Path.name, parts, List.getLast?_concat]
  rfl

/-- The text of a normal path ends in its last name. -/
lemma lastComponent_toString {p : Path} (normal : p.Normal) (last : p.parts.getLast? = some c.toList) :
    LastComponent p.toString c := by
  apply lastComponent_of_getLast?
  have some_ : p.parts ≠ [] := by
    intro bare
    rw [bare] at last
    cases last
  rw [Path.toString, String.toList_ofList, Path.splitSlash_write some_ normal, List.getLast?_append,
    last]
  rfl

/-! ### Base names -/

/-- Every component has a base name. -/
lemma exists_baseName (c : String) : ∃ s, BaseName c s := by
  cases split : Path.splitLastDot c.toList with
  | none =>
    refine ⟨c, .whole fun s e text => absurd ?_ (Path.splitLastDot_eq_none.mp split)⟩
    simp [text]
  | some pair =>
    obtain ⟨s, e⟩ := pair
    obtain ⟨chars, free⟩ := Path.splitLastDot_eq_some_iff.mp split
    cases s with
    | nil =>
      -- The only dot is the first character.
      refine ⟨c, .whole fun s' e' text => ?_⟩
      rw [text, String.toList_append, String.toList_append, List.append_assoc] at chars
      cases front : s'.toList with
      | nil => simpa using front
      | cons x rest =>
        rw [front] at chars
        cases chars
        simp at free
    | cons x rest =>
      have text : c = .ofList (x :: rest) ++ "." ++ .ofList e := by
        apply String.toList_injective
        simpa using chars
      refine ⟨.ofList (x :: rest), ?_⟩
      rw [text]
      apply BaseName.cut
      · simp
      · simpa using free

/-- The base name of a component starts it. -/
lemma BaseName.starts (base : BaseName c s) : s.toList <+: c.toList := by
  cases base with
  | cut => exact ⟨_, by rw [String.toList_append, String.toList_append, List.append_assoc]⟩
  | whole => exact List.prefix_rfl

/-- A base name of a regular component has something other than dots in it. -/
lemma BaseName.other (base : BaseName c s) (regular : Regular c) (full : s ≠ "") :
    ∃ x ∈ s.toList, x ≠ '.' := by
  have start := base.starts
  cases chars : s.toList with
  | nil => exact absurd (by simpa using chars) full
  | cons x rest =>
    by_cases dot : x = '.'
    · subst dot
      cases rest with
      | nil =>
        -- A single dot is the whole component, or stands in front of another one.
        have text : s = "." := String.toList_injective chars
        subst text
        cases base with
        | @cut _ e =>
          have dots : "..".toList <+: ("." ++ "." ++ e).toList := ⟨e.toList, by simp⟩
          exact absurd dots regular.start
        | whole => exact absurd rfl regular.stop
      | cons y rest =>
        refine ⟨y, by simp, ?_⟩
        rintro rfl
        rw [chars] at start
        exact absurd (List.IsPrefix.trans ⟨rest, rfl⟩ start) regular.start
    · exact ⟨x, List.mem_cons_self, dot⟩

/-- Display names take off what a base name leaves out. -/
lemma BaseName.stem (base : BaseName c s) (other : ∃ x ∈ s.toList, x ≠ '.') :
    ShortName.stem c.toList = s.toList := by
  cases base with
  | @cut s e full free =>
    rw [String.toList_append, String.toList_append, List.append_assoc]
    exact ShortName.stem_append free other
  | @whole c first =>
    rcases ShortName.stem_cases c.toList with same | ⟨e, text, -, x, mem, -⟩
    · exact same
    · have blank : String.ofList (ShortName.stem c.toList) = "" := by
        apply first _ (.ofList e)
        apply String.toList_injective
        simpa using text
      rw [String.ofList_eq_empty_iff] at blank
      rw [blank] at mem
      cases mem

/-- Paths take off what a base name leaves out, unless it ends in a dot. -/
lemma BaseName.stemOf (base : BaseName c s) (stop : c.toList.getLast? ≠ some '.') :
    Path.stemOf c.toList = s.toList := by
  cases base with
  | @cut s e full free =>
    rw [String.toList_append, String.toList_append, List.append_assoc]
    apply Path.stemOf_append
    · simpa using full
    · intro blank
      have last : e = "" := by simpa using blank
      rw [last] at stop
      simp at stop
    · exact free
  | @whole c first =>
    rw [Path.stemOf]
    split
    · rename_i before after split
      obtain ⟨text, -⟩ := Path.splitLastDot_eq_some_iff.mp split
      have blank : String.ofList before = "" := by
        apply first _ (.ofList after)
        apply String.toList_injective
        simpa using text
      rw [String.ofList_eq_empty_iff] at blank
      rw [blank]
      rfl
    · rfl

/-! ### Display names -/

/-- A path is shown under the base name of its last component. -/
lemma shortName_of_baseName (last : LastComponent location c) (straight : '\\' ∉ c.toList)
    (base : BaseName c s) (other : ∃ x ∈ s.toList, x ≠ '.') (visible : ShortName.IsVisible s)
    (default : String) : shortName location default = s := by
  have stem := base.stem other
  have seen : Text.allBlank (ShortName.stem c.toList) = false := by
    rw [stem]
    exact ShortName.allBlank_eq_false.mpr visible
  have free (unslashed : '/' ∉ c.toList) : ∀ x ∈ c.toList, ShortName.isSeparator x = false := by
    intro x mem
    have slash : x ≠ '/' := fun same => unslashed (same ▸ mem)
    have backslash : x ≠ '\\' := fun same => straight (same ▸ mem)
    simp [ShortName.isSeparator, slash, backslash]
  have shown : ShortName.ofChars location.toList default.toList = s.toList := by
    cases last with
    | alone unslashed =>
      have dir : ∀ x ∈ ([] : List Char).getLast?, ShortName.isSeparator x = true := nofun
      exact (ShortName.ofChars_stem dir (free unslashed) _ seen).trans stem
    | @below d c unslashed =>
      have dir : ∀ x ∈ (d ++ "/").toList.getLast?, ShortName.isSeparator x = true := by
        simp [ShortName.isSeparator]
      rw [String.toList_append]
      exact (ShortName.ofChars_stem dir (free unslashed) _ seen).trans stem
  rw [shortName, shown, String.ofList_toList]

namespace Symbols

/-- Every location has a last component, and that has a base name. If the component is regular and
something of its base name is visible, then there is a candidate, and both are shown under the base
name. -/
theorem candidate_shares_name :
    (∀ location, ∃ c, LastComponent location c) ∧ (∀ c, ∃ s, BaseName c s) ∧
    ∀ (location c s e : String) (default : Option String), LastComponent location c →
      Regular c → BaseName c s → ShortName.IsVisible s → IsSuffix e → '\\' ∉ e.toList →
        ∃ q, candidate location ("." ++ e) = .ok (some q) ∧
          shortName q.toString (default.getD "") = shortName location (default.getD "") ∧
          shortName location (default.getD "") = s := by
  refine ⟨exists_lastComponent, exists_baseName, ?_⟩
  intro location c s e default last regular base visible suffix straight
  have full : s ≠ "" := by
    rintro rfl
    obtain ⟨x, mem, -⟩ := visible
    cases mem
  have other := base.other regular full
  have named : Path.isName c.toList = true := by
    obtain ⟨x, mem, dot⟩ := other
    exact Path.isName_of_mem dot (base.starts.subset mem)
  have name := last.name named
  have stem : (Path.ofString location).stem = s.toList := by
    rw [Path.stem, name]
    exact base.stemOf regular.stop
  have shown := shortName_of_baseName last regular.straight base other visible (default.getD "")
  refine ⟨beside (.ofString location) ("." ++ e), ?_, ?_, shown⟩
  · rw [candidate_eq _ suffix.makesNames, name, if_neg (Path.ne_nil_of_isName named)]
  · rw [shown]
    have chars : (s ++ "." ++ e).toList = s.toList ++ ("." ++ e).toList := by simp
    apply shortName_of_baseName (c := s ++ "." ++ e)
    · apply lastComponent_toString
      · exact normal_beside (Path.normal_read _) suffix.makesNames
      · rw [beside, List.getLast?_concat, stem, chars]
    · rw [chars, List.mem_append, not_or]
      refine ⟨fun mem => regular.straight (base.starts.subset mem), ?_⟩
      simpa using straight
    · exact .cut full suffix.undotted
    · exact other
    · exact visible

/-- A dot at the start belongs to the base name, and a location need not be in normal form. -/
theorem candidate_shares_name_dotted :
    LastComponent "bin//./.a.b.dll" ".a.b.dll" ∧ Regular ".a.b.dll" ∧
      BaseName ".a.b.dll" ".a.b" ∧ ShortName.IsVisible ".a.b" ∧ IsSuffix "pdb" ∧
      ∃ q, candidate "bin//./.a.b.dll" ("." ++ "pdb") = .ok (some q) ∧
        q.toString = "bin/.a.b.pdb" ∧ shortName q.toString "" = ".a.b" ∧
        shortName "bin//./.a.b.dll" "" = ".a.b" := by
  have last : LastComponent ("bin//." ++ "/" ++ ".a.b.dll") ".a.b.dll" := .below (by decide)
  have regular : Regular ".a.b.dll" := ⟨by decide, by decide, by decide⟩
  have base : BaseName (".a.b" ++ "." ++ "dll") ".a.b" := .cut (by decide) (by decide)
  have visible : ShortName.IsVisible ".a.b" := by decide
  have suffix : IsSuffix "pdb" := ⟨by decide, by decide, by decide⟩
  obtain ⟨-, -, shares⟩ := candidate_shares_name
  obtain ⟨q, found, same, shown⟩ :=
    shares _ _ _ _ none last regular base visible suffix (by decide)
  have path : candidate "bin//./.a.b.dll" ("." ++ "pdb") =
      .ok (some ⟨.relative, ["bin".toList, ".a.b.pdb".toList]⟩) := by decide +kernel
  cases found.symm.trans path
  exact ⟨last, regular, base, visible, suffix, _, path, by decide +kernel, same.trans shown, shown⟩

end Symbols

end PEInspect
