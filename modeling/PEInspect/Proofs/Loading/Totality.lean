import PEInspect.Proofs.Disk.Walk
import PEInspect.Proofs.Loading.Classification
import PEInspect.Proofs.Symbols.Candidate

/-!
# Totality

With an extension that a configuration is not warned about, loading gives a file, whatever is on the
disk and whatever the parsers answer, with one exception: the disk is asked for the symbol file
beside a module, and loading stops with the disk where that has no answer (`loading_stops_iff`). The
disk has none for a path whose text is too long, or on whose way there is a name that is too long or
a directory that may not be searched. In a directory that can be reached, and where no link stands,
the lengths of the text and of the last name decide (`unanswered_iff_tooLong`).
-/

namespace PEInspect.Loading

open PEInspect.Action Opening Parsing

/-- The path at which the symbols of a module are looked for. -/
def candidateOf (w : World) (m : Ref .module) (extension : String) : Path :=
  Symbols.beside (.ofString (locationOf w m)) extension

/-- Symbols are looked for beside a module: it needs them, and its location has a last name. -/
structure Looks (w : World) (m : Ref .module) : Prop where
  wants : Wants w m
  named : (Path.ofString (locationOf w m)).name ≠ []

/-- The failure of asking for a path that is too long: it could be asked for, and its text takes
4096 bytes or more, or its last name takes more than 255. -/
structure TooLong (c : Path) (f : Failure) : Prop where
  askable : Disk.hasNul c.write = false
  long : 4096 ≤ Disk.byteLength c.write ∨ 255 < Disk.byteLength c.name
  failure : f = .system .nameTooLong c.toString

/-! ## The same module in two worlds -/

section Same

variable {w v : World} {m : Ref .module} (location : locationOf v m = locationOf w m)
include location

/-- The candidate of a module hangs on its location alone. -/
lemma candidateOf_congr {extension : String} :
    candidateOf v m extension = candidateOf w m extension := by
  rw [candidateOf, candidateOf, location]

/-- Whether symbols are looked for hangs on the location and the symbols of a module. -/
lemma looks_congr (symbols : (v.modules.get m).symbols = (w.modules.get m).symbols) :
    Looks v m ↔ Looks w m := by
  have wants : Wants v m ↔ Wants w m := by
    rw [Wants, Wants, location, symbols]
  constructor
  · rintro ⟨wants', named⟩
    rw [location] at named
    exact ⟨wants.mp wants', named⟩
  · rintro ⟨wants', named⟩
    rw [← location] at named
    exact ⟨wants.mpr wants', named⟩

end Same

section Wrapped

variable {w : World} {m : Ref .module} {key : Option FileKey} {name extension : String}

/-- Making a file of a module leaves the disk alone. -/
lemma wrapped_disk : (wrapped w m key name).disk = w.disk := by
  rw [wrapped, indexed]
  split <;> rfl

/-- Making a file of a module does not change whether symbols are looked for. -/
lemma looks_wrapped : Looks (wrapped w m key name) m ↔ Looks w m :=
  looks_congr (locationOf_indexed w m m)
    (indexed_get ManagedModule.symbols (fun _ _ _ _ => rfl) m)

/-- Making a file of a module does not change its candidate. -/
lemma candidateOf_wrapped :
    candidateOf (wrapped w m key name) m extension = candidateOf w m extension :=
  candidateOf_congr (locationOf_indexed w m m)

end Wrapped

section Adopted

variable (w : World) (m : Ref .module) (resolver : Option (Ref .resolver))

/-- A fresh context does not change the name of a module. -/
lemma moduleName_adopted : moduleName (adopted w m resolver) m = moduleName w m :=
  adopted_get (fun x => nameOf w.metadata x.body) (fun _ _ => rfl) m

/-- A fresh context does not change the location of a module. -/
lemma locationOf_adopted : locationOf (adopted w m resolver) m = locationOf w m :=
  adopted_get (fun x => x.location.getD "") (fun _ _ => rfl) m

/-- A fresh context does not change whether symbols are looked for. -/
lemma looks_adopted : Looks (adopted w m resolver) m ↔ Looks w m :=
  looks_congr (locationOf_adopted w m resolver)
    (adopted_get ManagedModule.symbols (fun _ _ => rfl) m)

end Adopted

/-! ## Modules that have just been parsed -/

/-- The path of a file that can be read has names. -/
lemma parts_ne_nil_of_read {disk : Disk} {text content}
    (rd : disk.read (.ofString text) = .ok content) : (Path.ofString text).parts ≠ [] := by
  intro none_
  -- A path without names leads to a directory, and a directory cannot be read.
  obtain ⟨-, _, directory⟩ := Disk.find_bare none_ (Disk.find_of_read rd).2
  cases directory

/-- The path of a file that can be read has a last name. -/
lemma name_ne_nil_of_read {disk : Disk} {text content}
    (rd : disk.read (.ofString text) = .ok content) : (Path.ofString text).name ≠ [] :=
  Path.ne_nil_of_isName ((Path.normal_read text.toList).names _
    (Path.name_mem (parts_ne_nil_of_read rd)))

/-- Symbols are looked for beside the path for which a module has just been parsed. -/
lemma looks_of_parses {w : World} {text mapped content directories resolver m v}
    (recog : Recognized w (.ofString text) mapped content directories)
    (prs : Parses w.images.next (some w.contexts.next) content
      (prepared w text mapped content directories resolver) (.ok m) v) :
    Looks v m ∧ v.disk = w.disk ∧
      ∀ extension, candidateOf v m extension = Symbols.beside (.ofString text) extension := by
  have image : (prepared w text mapped content directories resolver).images.get w.images.next
      = imageIn w (.ofString text) mapped content directories := opened_get_image
  have location : locationOf v m = (Path.ofString text).toString := by
    rw [locationOf, prs.module, image]
    rfl
  have path : Path.ofString (locationOf v m) = Path.ofString text := by
    rw [location, Path.ofString_toString]
  refine ⟨⟨⟨?_, ?_⟩, ?_⟩, ?_, fun extension => ?_⟩
  · rw [location]
    exact Path.isEmpty_toString _
  · rw [prs.module]
    rfl
  · rw [path]
    exact name_ne_nil_of_read recog.read
  · obtain ⟨_, _, _, rfl⟩ := prs.normal
    cases mapped <;> rfl
  · rw [candidateOf, path]

/-! ## Paths beside a path -/

/-- The directory of the path beside a path is that of the path. -/
lemma reaches_beside {disk : Disk} {p : Path} {extension : String} :
    disk.Reaches (Symbols.beside p extension) ↔ disk.Reaches p := by
  rw [Disk.Reaches, Disk.Reaches, Symbols.beside, List.dropLast_concat]

section Extension

variable {extension : String} (valid : Config.extensionWarnings extension = [])
include valid

/-- A stem with a valid extension does not lead up. -/
lemma beside_ne_up {p : Path} (named : p.name ≠ []) :
    p.stem ++ extension.toList ≠ ['.', '.'] := by
  intro up
  -- One character at least from the stem, and two from the extension.
  have stem : 0 < p.stem.length := List.length_pos_iff.mpr (Path.stemOf_ne_nil named)
  have long := (Symbols.makesNames_of_valid valid).long
  have two := congrArg List.length up
  rw [List.length_append] at two
  simp only [List.length_cons, List.length_nil] at two
  omega

/-- In a directory that can be reached, and where no link stands, the disk has no answer exactly
about a path that is too long. -/
lemma unanswered_iff_tooLong {disk : Disk} {text f} (named : (Path.ofString text).name ≠ [])
    (reaches : disk.Reaches (Symbols.beside (.ofString text) extension))
    (unlinked : ¬ disk.LinkAt (Symbols.beside (.ofString text) extension)) :
    disk.Unanswered (Symbols.beside (.ofString text) extension) f ↔
      TooLong (Symbols.beside (.ofString text) extension) f := by
  have some_ : (Symbols.beside (.ofString text) extension).parts ≠ [] := List.concat_ne_nil _ _
  have normal := Symbols.normal_beside (Path.normal_read text.toList)
    (Symbols.makesNames_of_valid valid)
  have plain : (Symbols.beside (.ofString text) extension).name ≠ ['.', '.'] := by
    rw [Symbols.name_beside]
    exact beside_ne_up valid named
  rw [Disk.unanswered_iff_long reaches some_ normal plain unlinked]
  constructor
  · rintro ⟨askable, long, failure⟩
    exact ⟨askable, long, failure⟩
  · rintro ⟨askable, long, failure⟩
    exact ⟨askable, long, failure⟩

/-! ## The symbol step -/

/-- The symbol step fails exactly where it looks for symbols and the disk has no answer. -/
lemma Attaches.stops_iff {m w r v f} (att : Attaches (.text extension) m w r v) :
    r = .error f ↔ Looks w m ∧ w.disk.Unanswered (candidateOf w m extension) f := by
  have cand := Symbols.candidate_eq (locationOf w m) (Symbols.makesNames_of_valid valid)
  constructor
  · intro stop
    cases att with
    | malformed _ cand' => cases cand.symm.trans cand'
    | unanswered wants cand' stop' =>
      cases stop
      have found := cand.symm.trans cand'
      split at found
      · cases found
      · rename_i named
        cases found
        exact ⟨⟨wants, named⟩, Disk.hasFile_error_iff.mp stop'⟩
    | _ => cases stop
  · rintro ⟨⟨wants, named⟩, unanswered⟩
    -- There is a candidate and the disk fails on it, which leaves one way for the step.
    rw [if_neg named] at cand
    have stop := Disk.hasFile_error_iff.mpr unanswered
    cases att with
    | settled idle => exact absurd wants idle
    | malformed _ cand' => cases cand.symm.trans cand'
    | nameless _ cand' => cases cand.symm.trans cand'
    | unanswered _ cand' stop' =>
      cases cand.symm.trans cand'
      cases stop.symm.trans stop'
      rfl
    | absent _ cand' there =>
      cases cand.symm.trans cand'
      cases stop.symm.trans there
    | unfit _ cand' rd =>
      cases cand.symm.trans cand'
      cases stop.symm.trans (Disk.hasFile_of_read rd)
    | barred _ cand' there =>
      cases cand.symm.trans cand'
      cases stop.symm.trans there
    | attached _ cand' rd =>
      cases cand.symm.trans cand'
      cases stop.symm.trans (Disk.hasFile_of_read rd)

/-! ## Modules -/

/-- Wrapping a module with a name fails exactly where the symbol step does. -/
lemma Wraps.stops_iff {m symbols key w r v name f}
    (wrs : Wraps (.text extension) m symbols key w r v) (known : moduleName w m = .ok name) :
    r = .error f ↔
      symbols = true ∧ Looks w m ∧ w.disk.Unanswered (candidateOf w m extension) f := by
  cases wrs with
  | nameless unknown => cases known.symm.trans unknown
  | bare _ off =>
    cases off
    exact ⟨nofun, nofun⟩
  | searched _ on att =>
    have step := att.stops_iff valid (f := f)
    rw [looks_wrapped, wrapped_disk, candidateOf_wrapped] at step
    constructor
    · nofun
    · rintro ⟨-, stops⟩
      cases step.mpr stops
  | stopped _ on att =>
    have step := att.stops_iff valid (f := f)
    rw [looks_wrapped, wrapped_disk, candidateOf_wrapped] at step
    constructor
    · rintro ⟨⟩
      exact ⟨on, step.mp rfl⟩
    · rintro ⟨-, stops⟩
      cases step.mpr stops
      rfl

/-! ## Paths -/

/-- Loading a path fails exactly where it holds a module and the disk has no answer about the path
beside it. -/
lemma Loads.stops_iff {text mapped symbols resolver key w r v f}
    (loads : Loads (.text extension) text mapped symbols resolver key w r v) :
    r = .error f ↔ symbols = true ∧ HoldsModule w (.ofString text) mapped ∧
      w.disk.Unanswered (Symbols.beside (.ofString text) extension) f := by
  cases loads with
  | unrecognized ops =>
    exact ⟨nofun, fun stops => absurd (noImage_of_opens ops) stops.2.1.not_noImage⟩
  | native recog plain =>
    exact ⟨nofun, fun stops => absurd stops.2.1 (not_holdsModule_of_native recog plain)⟩
  | unreadable recog managed prs =>
    exact ⟨nofun, fun stops => absurd stops.2.1 (not_holdsModule_of_parses recog prs)⟩
  | @module _ _ m name v _ _ recog managed prs known wrs =>
    have holds := holdsModule_of_parses recog managed prs
    obtain ⟨looks, disk, candidate⟩ := looks_of_parses recog prs
    have step := wrs.stops_iff valid known (f := f)
    -- The notice on the way changes neither the module nor the disk.
    change _ ↔ _ ∧ _ ∧ v.disk.Unanswered (candidateOf v m extension) f at step
    rw [disk, candidate] at step
    rw [step]
    constructor
    · rintro ⟨on, -, unanswered⟩
      exact ⟨on, holds, unanswered⟩
    · rintro ⟨on, -, unanswered⟩
      exact ⟨on, ⟨looks.wants, looks.named⟩, unanswered⟩

end Extension

/-- Where loading stops. With a valid extension, loading a path gives a file, unless symbols are
wanted, the path holds a module, and the disk has no answer about the path beside it; and wrapping a
module with a name gives a file, unless symbols are wanted, they are looked for beside the module,
and the disk has no answer about the candidate. The failure is that of the disk. Where no link
stands at the candidate, and its directory can be searched, it is the lengths that decide. -/
theorem loading_stops_iff {l : Loader} {extension : String} (images : l.images = .standard)
    (modules : l.modules = .standard) (text_ : l.symbolExtension = .text extension)
    (valid : Config.extensionWarnings extension = []) (w : World) (symbols : Bool)
    (resolver : Option (Ref .resolver)) (key : Option FileKey) :
    (∀ (text : String) (mapped : Document.Value),
      let c := Symbols.beside (.ofString text) extension
      ∃ r v, (fromTarget l (.path text) mapped symbols resolver key).Runs w r v ∧
        (∀ f, r = .error f ↔
          symbols = true ∧ HoldsModule w (.ofString text) mapped.isTruthy ∧
            w.disk.Unanswered c f) ∧
        (¬ w.disk.LinkAt c → ∀ f, r = .error f ↔
          symbols = true ∧ HoldsModule w (.ofString text) mapped.isTruthy ∧ TooLong c f)) ∧
    (∀ (m : Ref .module) (name : String), moduleName w m = .ok name →
      let c := candidateOf w m extension
      ∃ r v, (fromModule l m symbols resolver key).Runs w r v ∧
        (∀ f, r = .error f ↔ symbols = true ∧ Looks w m ∧ w.disk.Unanswered c f) ∧
        (w.disk.find (Disk.parent c).write = .ok .directory → ¬ w.disk.LinkAt c → ∀ f,
          r = .error f ↔ symbols = true ∧ Looks w m ∧ TooLong c f)) := by
  constructor
  · intro text mapped c
    obtain ⟨r, v, run, loads⟩ := exists_loads w text mapped symbols resolver key images modules
    rw [text_] at loads
    refine ⟨r, v, run, fun f => loads.stops_iff valid, fun unlinked f => ?_⟩
    rw [loads.stops_iff valid]
    refine and_congr_right fun _ => and_congr_right fun ⟨recog, _, _, _⟩ => ?_
    -- The file has been read, so its directory can be reached.
    have reaches := Disk.reaches_of_find (parts_ne_nil_of_read recog.read)
      (Path.normal_read text.toList) (Disk.find_of_read recog.read).2
    exact unanswered_iff_tooLong valid (name_ne_nil_of_read recog.read)
      (reaches_beside.mpr reaches) unlinked
  · intro m name known c
    obtain ⟨r, v, run, wrs⟩ := exists_fromModule l w m symbols resolver key
    rw [text_] at wrs
    have stops (f : Failure) :=
      wrs.stops_iff valid ((moduleName_adopted w m resolver).trans known) (f := f)
    simp only [looks_adopted, candidateOf_congr (locationOf_adopted w m resolver)] at stops
    refine ⟨r, v, run, stops, fun directory unlinked f => ?_⟩
    rw [stops]
    refine and_congr_right fun _ => and_congr_right fun looks => ?_
    have reaches := Disk.reaches_of_parent (Symbols.normal_beside
      (Path.normal_read (locationOf w m).toList) (Symbols.makesNames_of_valid valid)) directory
    exact unanswered_iff_tooLong valid looks.named reaches unlinked

/-- A name that is just short enough for a file, and too long with another extension behind it. -/
def longName : List Char :=
  List.replicate 252 'a'

set_option maxRecDepth 4000 in
/-- A file with such a name can be read. -/
lemma read_longName : (moduleWorld longName).disk.read (.ofString (String.ofList longName))
    = .ok smallImage := by
  rw [Path.ofString, String.toList_ofList, Path.read_name (by decide) (by decide)]
  cbv

/-- The candidate beside such a file. -/
def longCandidate : Path :=
  Symbols.beside (.ofString (String.ofList longName)) ".pdb"

set_option maxRecDepth 4000 in
/-- The candidate is too long. -/
lemma tooLong_longCandidate :
    TooLong longCandidate (.system .nameTooLong longCandidate.toString) := by
  refine ⟨?_, .inr ?_, rfl⟩
  · rw [longCandidate, Path.ofString, String.toList_ofList, Path.read_name (by decide) (by decide)]
    decide +kernel
  · rw [longCandidate, Path.ofString, String.toList_ofList, Path.read_name (by decide) (by decide)]
    decide +kernel

/-- A world with a module whose location has a directory on the disk, and no file. -/
def placedWorld : World where
  disk := { nodes := [([srv], .directory)] }
  modules := ⟨[{
    location := some (String.ofList ("/srv/".toList ++ longName ++ ".dll".toList))
    body := .scripted {} }]⟩

/-- The path at which the module is said to stand. -/
lemma ofString_placed : Path.ofString (locationOf placedWorld ⟨0⟩)
    = ⟨.slash, [srv, longName ++ ".dll".toList]⟩ := by
  have location : locationOf placedWorld ⟨0⟩
      = String.ofList ("/srv/".toList ++ longName ++ ".dll".toList) := rfl
  rw [location, Path.ofString, String.toList_ofList]
  decide +kernel

/-- The candidate of the module is too long. -/
lemma tooLong_placed : TooLong (candidateOf placedWorld ⟨0⟩ ".pdb")
    (.system .nameTooLong (candidateOf placedWorld ⟨0⟩ ".pdb").toString) := by
  refine ⟨?_, .inr ?_, rfl⟩
  · rw [candidateOf, ofString_placed]
    decide +kernel
  · rw [candidateOf, ofString_placed]
    decide +kernel

/-- Loading such a file with its symbols stops, and so does wrapping such a module. -/
theorem loading_stops_at_longName :
    (∃ v, (fromTarget {} (.path (String.ofList longName)) (.bool false) true none none).Runs
      (moduleWorld longName) (.error (.system .nameTooLong longCandidate.toString)) v) ∧
    ∃ v, (fromModule {} ⟨0⟩ true none none).Runs placedWorld
      (.error (.system .nameTooLong (candidateOf placedWorld ⟨0⟩ ".pdb").toString)) v := by
  have valid : Config.extensionWarnings ".pdb" = [] := by decide +kernel
  have unlinked : ¬ (moduleWorld longName).disk.LinkAt longCandidate := by
    refine Disk.not_linkAt (fun place target link => ?_) _
    cases List.mem_singleton.mp link
  have unlinked' (c : Path) : ¬ placedWorld.disk.LinkAt c := by
    refine Disk.not_linkAt (fun place target link => ?_) _
    cases List.mem_singleton.mp link
  constructor
  · obtain ⟨r, v, run, -, stops⟩ := (loading_stops_iff (l := {}) rfl rfl rfl valid
      (moduleWorld longName) true none none).1 (String.ofList longName) (.bool false)
    have holds := holdsModule_moduleWorld false read_longName
    rw [(stops unlinked _).mpr ⟨rfl, holds, tooLong_longCandidate⟩] at run
    exact ⟨v, run⟩
  · obtain ⟨r, v, run, -, stops⟩ := (loading_stops_iff (l := {}) rfl rfl rfl valid
      placedWorld true none none).2 ⟨0⟩ "Lib.dll" rfl
    have directory : placedWorld.disk.find (Disk.parent (candidateOf placedWorld ⟨0⟩ ".pdb")).write
        = .ok .directory := by
      rw [candidateOf, ofString_placed]
      decide +kernel
    have named : (Path.ofString (locationOf placedWorld ⟨0⟩)).name ≠ [] := by
      rw [ofString_placed]
      decide +kernel
    have wants : Wants placedWorld ⟨0⟩ := ⟨by decide +kernel, rfl⟩
    rw [(stops directory (unlinked' _) _).mpr ⟨rfl, ⟨wants, named⟩, tooLong_placed⟩] at run
    exact ⟨v, run⟩

end PEInspect.Loading
