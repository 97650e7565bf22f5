import Mathlib.Data.List.Basic
import Mathlib.Data.List.TakeWhile
import PEInspect.Proofs.Path.Stem
import PEInspect.ShortName

/-!
# The rule for display names

Every path is a directory part followed by a last component without separators. If something is
visible in that component, the display name is its stem or else the component itself, whatever the
directory and the default are; a blank component leaves the whole path, and an empty one the default
(`shortName_by_rule`). A stem counts only if something is visible in it and something other than dots
is: a blank stem gives way to the component, and leading dots start no extension.
-/

namespace PEInspect.ShortName

/-- A text that a component can follow: it is empty or ends in a separator. -/
def IsDirectory (d : String) : Prop :=
  ∀ x ∈ d.toList.getLast?, isSeparator x = true

def IsComponent (c : String) : Prop :=
  ∀ x ∈ c.toList, isSeparator x = false

/-- A text with a character that is not blank. -/
def IsVisible (s : String) : Prop :=
  ∃ x ∈ s.toList, Text.isBlank x = false

/-- A text is visible if it does not consist of blanks. -/
lemma allBlank_eq_false {s : String} : Text.allBlank s.toList = false ↔ IsVisible s := by
  rw [Text.allBlank, List.all_eq_false]
  simp [IsVisible]

instance (d : String) : Decidable (IsDirectory d) :=
  decidable_of_iff (d.toList.getLast?.all isSeparator = true) (Option.all_eq_true _ _)

instance (c : String) : Decidable (IsComponent c) :=
  decidable_of_iff (c.toList.all (!isSeparator ·) = true) (by simp [IsComponent])

instance (s : String) : Decidable (IsVisible s) :=
  decidable_of_iff (Text.allBlank s.toList = false) allBlank_eq_false

/-- A component is a stem, the last of its dots and an extension, and the stem can be shown for it. -/
structure HasStem (c s : String) : Prop where
  split : ∃ e : String, c = s ++ "." ++ e ∧ '.' ∉ e.toList
  visible : IsVisible s
  other : ∃ x ∈ s.toList, x ≠ '.'

section Chars

variable {d c : List Char}

/-- Behind a directory part, the last component begins. -/
lemma lastComponent_append (dir : ∀ x ∈ d.getLast?, isSeparator x = true)
    (free : ∀ x ∈ c, isSeparator x = false) : lastComponent (d ++ c) = c := by
  have inside : ∀ x ∈ c.reverse, (!isSeparator x) = true := by
    intro x mem
    rw [free x (List.mem_reverse.mp mem)]
    rfl
  have outside : d.reverse.takeWhile (fun x => !isSeparator x) = [] := by
    cases back : d.reverse with
    | nil => rfl
    | cons x rest =>
      have last : d.getLast? = some x := by rw [List.getLast?_eq_head?_reverse, back, List.head?_cons]
      rw [List.takeWhile_cons, dir x last]
      rfl
  rw [lastComponent, List.reverse_append, List.takeWhile_append_of_pos inside, outside,
    List.append_nil, List.reverse_reverse]

/-- A component with a dot is cut at the last one, unless only dots stand in front of it. -/
lemma stem_append {s e : List Char} (free : '.' ∉ e) (other : ∃ x ∈ s, x ≠ '.') :
    stem (s ++ '.' :: e) = s := by
  have dots : s.all (· == '.') = false := by
    rw [List.all_eq_false]
    simpa using other
  rw [stem, Path.splitLastDot_append s free]
  simp only [dots, Bool.false_eq_true, if_false]

/-- A stem is the whole component, or stands in front of its last dot. -/
lemma stem_cases (c : List Char) :
    stem c = c ∨ ∃ e, c = stem c ++ '.' :: e ∧ '.' ∉ e ∧ ∃ x ∈ stem c, x ≠ '.' := by
  rw [stem]
  split
  · rename_i s e split
    obtain ⟨text, free⟩ := Path.splitLastDot_eq_some_iff.mp split
    split
    · exact .inl rfl
    · rename_i other
      refine .inr ⟨e, text, free, ?_⟩
      rw [Bool.not_eq_true, List.all_eq_false] at other
      simpa using other
  · exact .inl rfl

/-- The stem of a component starts it. -/
lemma stem_starts (c : List Char) : stem c <+: c := by
  obtain same | ⟨e, text, -, -⟩ := stem_cases c
  · exact ⟨[], by rw [same, List.append_nil]⟩
  · exact ⟨_, text.symm⟩

/-! ## The stages of the rule -/

section Stages

variable (dir : ∀ x ∈ d.getLast?, isSeparator x = true)
  (free : ∀ x ∈ c, isSeparator x = false) (default : List Char)
include dir free

/-- A visible stem of the last component is the short name. -/
lemma ofChars_stem (visible : Text.allBlank (stem c) = false) :
    ofChars (d ++ c) default = stem c := by
  simp only [ofChars, lastComponent_append dir free, visible, Bool.not_false, if_true]

/-- A component with a blank stem stands for itself. -/
lemma ofChars_component (blank : Text.allBlank (stem c) = true)
    (visible : Text.allBlank c = false) : ofChars (d ++ c) default = c := by
  simp only [ofChars, lastComponent_append dir free, blank, visible, Bool.not_true, Bool.not_false,
    Bool.false_eq_true, if_false, if_true]

/-- The stem of a blank component is blank, since it is a part of the component. -/
lemma ofChars_blank (blank : Text.allBlank c = true) :
    ofChars (d ++ c) default = if c = [] then default else d ++ c := by
  have stem_ : Text.allBlank (stem c) = true := by
    obtain ⟨rest, text⟩ := stem_starts c
    rw [← text, Text.allBlank_append, Bool.and_eq_true] at blank
    exact blank.1
  simp only [ofChars, lastComponent_append dir free, stem_, blank, Bool.not_true,
    Bool.false_eq_true, if_false]
  obtain rfl | ⟨front, x, rfl⟩ := List.eq_nil_or_concat' c
  -- Without a component, the directory part is all there is, and it names no file.
  · rw [List.append_nil, if_pos rfl]
    cases last : d.getLast? with
    | none => rfl
    | some x => simp only [dir x last, if_true]
  · have plain : isSeparator x = false := free x (by simp)
    rw [if_neg (by simp), ← List.append_assoc, List.getLast?_concat]
    simp only [plain, Bool.false_eq_true, if_false]

end Stages

end Chars

/-- The stem of a component, read off its characters. -/
lemma HasStem.chars {c s : String} (stem_ : HasStem c s) :
    stem c.toList = s.toList ∧ Text.allBlank s.toList = false := by
  obtain ⟨⟨e, rfl, free⟩, visible, other⟩ := stem_
  refine ⟨?_, allBlank_eq_false.mpr visible⟩
  rw [String.toList_append, String.toList_append, List.append_assoc]
  exact stem_append free other

/-- A stem and an extension with a visible character in front of the dot make the rule apply. -/
lemma hasStem_of_chars {c : String}
    (split : ∃ e, c.toList = stem c.toList ++ '.' :: e ∧ '.' ∉ e ∧ ∃ x ∈ stem c.toList, x ≠ '.')
    (visible : Text.allBlank (stem c.toList) = false) : HasStem c (.ofList (stem c.toList)) := by
  obtain ⟨e, text, free, other⟩ := split
  have chars : (String.ofList (stem c.toList)).toList = stem c.toList := String.toList_ofList
  refine ⟨⟨.ofList e, ?_, by rwa [String.toList_ofList]⟩, ?_, by rwa [chars]⟩
  · apply String.toList_injective
    rw [String.toList_append, String.toList_append, List.append_assoc, chars, String.toList_ofList,
      String.toList_ofList]
    exact text
  · rw [← allBlank_eq_false, chars]
    exact visible

/-- Every path is a directory part and a component. -/
lemma exists_component (path : String) :
    ∃ d c, path = d ++ c ∧ IsDirectory d ∧ IsComponent c := by
  let back := path.toList.reverse
  refine ⟨.ofList (back.dropWhile fun x => !isSeparator x).reverse,
    .ofList (lastComponent path.toList), ?_, ?_, ?_⟩
  · rw [← String.ofList_append, lastComponent, ← List.reverse_append, List.takeWhile_append_dropWhile,
      List.reverse_reverse, String.ofList_toList]
  · intro x last
    rw [String.toList_ofList, List.getLast?_reverse] at last
    have stops := List.head?_dropWhile_not (fun x => !isSeparator x) back
    rw [last] at stops
    simpa using stops
  · intro x mem
    rw [String.toList_ofList, lastComponent, List.mem_reverse] at mem
    simpa using List.mem_takeWhile_imp mem

/-- A display name goes by the last component of its path: its stem if it has one, else the component
itself, unless that is blank. Every path has such a component. -/
theorem shortName_by_rule :
    (∀ path, ∃ d c, path = d ++ c ∧ IsDirectory d ∧ IsComponent c) ∧
    ∀ (d c : String) (default : Option String), IsDirectory d → IsComponent c →
      (IsVisible c → ∀ s, HasStem c s → shortName (d ++ c) (default.getD "") = s) ∧
      (IsVisible c → (∀ s, ¬ HasStem c s) → shortName (d ++ c) (default.getD "") = c) ∧
      (c ≠ "" → ¬ IsVisible c → shortName (d ++ c) (default.getD "") = d ++ c) ∧
      (c = "" → shortName (d ++ c) (default.getD "") = default.getD "") ∧
      (IsVisible c → ∃ name, IsVisible name ∧ IsComponent name ∧ name.toList <+: c.toList ∧
        ∀ d' default', IsDirectory d' → shortName (d' ++ c) default' = name) := by
  refine ⟨exists_component, fun d c default dir free => ?_⟩
  have shows {d default : String} {name : List Char}
      (chars : ofChars (d.toList ++ c.toList) default.toList = name) :
      shortName (d ++ c) default = .ofList name := by
    rw [shortName, String.toList_append, chars]
  refine ⟨?_, ?_, ?_, ?_, ?_⟩
  · rintro - s stem_
    obtain ⟨cut, seen⟩ := stem_.chars
    rw [← cut] at seen
    exact (shows (ofChars_stem dir free _ seen)).trans (cut ▸ String.ofList_toList)
  · intro visible none_
    refine (shows ?_).trans String.ofList_toList
    cases seen : Text.allBlank (stem c.toList) with
    | true => exact ofChars_component dir free _ seen (allBlank_eq_false.mpr visible)
    | false =>
      rw [ofChars_stem dir free _ seen]
      obtain same | stem_ := stem_cases c.toList
      · exact same
      · exact absurd (hasStem_of_chars stem_ seen) (none_ _)
  · intro full blank
    have empty : c.toList ≠ [] := by simpa using full
    rw [shows (ofChars_blank dir free _ (by simpa using mt allBlank_eq_false.mp blank)),
      if_neg empty, ← String.toList_append, String.ofList_toList]
  · rintro rfl
    exact (shows (ofChars_blank dir free _ rfl)).trans String.ofList_toList
  · intro visible
    cases seen : Text.allBlank (stem c.toList) with
    | true =>
      refine ⟨c, visible, free, List.prefix_rfl, fun d' default' dir' => ?_⟩
      exact (shows (ofChars_component dir' free _ seen (allBlank_eq_false.mpr visible))).trans
        String.ofList_toList
    | false =>
      have text : (String.ofList (stem c.toList)).toList = stem c.toList := String.toList_ofList
      refine ⟨.ofList (stem c.toList), ?_, fun x mem => ?_, ?_, fun d' default' dir' => ?_⟩
      · rw [← allBlank_eq_false, text]
        exact seen
      · rw [text] at mem
        exact free x ((stem_starts c.toList).subset mem)
      · rw [text]
        exact stem_starts c.toList
      · exact shows (ofChars_stem dir' free _ seen)

/-- A blank stem gives way to its component, and leading dots start no extension. -/
theorem shortName_by_rule_dots :
    IsDirectory "C:\\lib/" ∧ IsComponent " .txt" ∧ IsComponent "..a.tar.gz" ∧
      IsVisible " .txt" ∧ (∀ s, ¬ HasStem " .txt" s) ∧
      shortName ("C:\\lib/" ++ " .txt") "" = " .txt" ∧
      HasStem "..a.tar.gz" "..a.tar" ∧ shortName ("C:\\lib/" ++ "..a.tar.gz") "" = "..a.tar" := by
  have dir : IsDirectory "C:\\lib/" := by decide
  have blank : IsComponent " .txt" ∧ IsVisible " .txt" := by decide
  have dots : IsComponent "..a.tar.gz" ∧ IsVisible "..a.tar.gz" := by decide
  have none_ : ∀ s, ¬ HasStem " .txt" s := by
    intro s stem_
    obtain ⟨cut, seen⟩ := stem_.chars
    rw [← cut] at seen
    exact absurd seen (by decide)
  have stem_ : HasStem "..a.tar.gz" "..a.tar" := by
    exact ⟨⟨"gz", by decide, by decide⟩, by decide, 'a', by decide, by decide⟩
  obtain ⟨-, rule⟩ := shortName_by_rule
  obtain ⟨-, component, -⟩ := rule "C:\\lib/" " .txt" none dir blank.1
  obtain ⟨stem, -⟩ := rule "C:\\lib/" "..a.tar.gz" none dir dots.1
  exact ⟨dir, blank.1, dots.1, blank.2, none_, component blank.2 none_, stem_, stem dots.2 _ stem_⟩

end PEInspect.ShortName
