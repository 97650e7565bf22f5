import Mathlib.Logic.Relation
import PEInspect.Proofs.Disk.Answers
import PEInspect.Proofs.Path.Normal

/-!
# Walks

How the disk follows a path. A search moves over one component after the other and replaces links by
their targets (`Moves`); it comes to its end or is stuck, and the disk answers accordingly
(`outcome_eq_ok`, `outcome_eq_error`). A search that is stuck for lack of anything there has an
answer; the others have none, and these are the ones that come to a directory closed to them or to a
name that is too long (`probe_error_iff`). In a directory that can be reached, only the last name is
still to be followed (`Reaches.comes`), so that without a link there it is the lengths of the text
and of that name that decide (`unanswered_iff_long`).
-/

namespace PEInspect.Disk

/-- Where a search stands: at a place, with components ahead of it, and with so many links that may
still be followed. -/
structure Search where
  place : Place
  ahead : List (List Char)
  links : Nat

/-- The moves of a search: over a component, and over a link, which its target replaces. -/
inductive Moves (disk : Disk) : Search → Search → Prop where
  | step {place component rest links next} :
    disk.step place component = .ok next →
    (∀ target, disk.nodeAt next ≠ .ok (.link target)) →
    Moves disk ⟨place, component :: rest, links⟩ ⟨next, rest, links⟩
  | link {place component rest links next target} :
    disk.step place component = .ok next →
    disk.nodeAt next = .ok (.link target) →
    Moves disk ⟨place, component :: rest, links + 1⟩
      ⟨startOf place target, Path.splitSlash target ++ rest, links⟩

/-- The reasons for which a search cannot move. -/
inductive Stuck (disk : Disk) : Search → SystemError → Prop where
  | step {place component rest links e} :
    disk.step place component = .error e →
    Stuck disk ⟨place, component :: rest, links⟩ e
  | link {place component rest next target} :
    disk.step place component = .ok next →
    disk.nodeAt next = .ok (.link target) →
    Stuck disk ⟨place, component :: rest, 0⟩ .loop

/-- A search comes to another one in some moves. -/
abbrev Comes (disk : Disk) : Search → Search → Prop :=
  Relation.ReflTransGen disk.Moves

/-- What a walk makes of a search. -/
def Search.outcome (disk : Disk) (s : Search) : Except SystemError Place :=
  disk.walk s.links s.place s.ahead

/-! ## Searches and walks -/

section Search

variable {disk : Disk} {s t : Search} {e : SystemError}

/-- A step to no link goes on with the components that are left. -/
lemma advance_step {place component rest next} (step_ : disk.step place component = .ok next)
    (plain : ∀ target, disk.nodeAt next ≠ .ok (.link target)) :
    disk.advance place (component :: rest) = disk.advance next rest := by
  rw [advance, step_]
  dsimp only
  split
  · rename_i target stands
    exact absurd stands (plain target)
  · rfl

/-- A step to a link stops in front of it. -/
lemma advance_link {place component rest next target}
    (step_ : disk.step place component = .ok next)
    (stands : disk.nodeAt next = .ok (.link target)) :
    disk.advance place (component :: rest) = .ok (.link place target rest) := by
  rw [advance, step_]
  dsimp only
  rw [stands]

/-- A move does not change what comes of a search. -/
lemma Moves.outcome (moves : Moves disk s t) : s.outcome disk = t.outcome disk := by
  cases moves with
  | step step_ plain =>
    rw [Search.outcome, Search.outcome, walk, walk, advance_step step_ plain]
  | link step_ stands =>
    rw [Search.outcome, Search.outcome, walk, advance_link step_ stands]

/-- The moves of a search do not change what comes of it. -/
lemma Comes.outcome (comes : Comes disk s t) : s.outcome disk = t.outcome disk := by
  induction comes with
  | refl => rfl
  | tail _ moves ih => exact ih.trans moves.outcome

/-- A search that is stuck fails. -/
lemma Stuck.outcome (stuck : Stuck disk s e) : s.outcome disk = .error e := by
  cases stuck with
  | step stop => rw [Search.outcome, walk, advance, stop]
  | link step_ stands => rw [Search.outcome, walk, advance_link step_ stands]

/-- A search with nothing ahead has arrived. -/
@[simp] lemma outcome_nil (disk : Disk) (place : Place) (links : Nat) :
    (Search.mk place [] links).outcome disk = .ok place := by
  rw [Search.outcome, walk]
  rfl

/-- A search has arrived, or can move, or is stuck. A move takes a component or a link off it. -/
lemma progress (disk : Disk) (s : Search) : s.ahead = [] ∨
    (∃ t, Moves disk s t ∧
      (t.links < s.links ∨ t.links = s.links ∧ t.ahead.length < s.ahead.length)) ∨
    ∃ e, Stuck disk s e := by
  obtain ⟨place, _ | ⟨component, rest⟩, links⟩ := s
  · exact .inl rfl
  right
  cases step_ : disk.step place component with
  | error e => exact .inr ⟨e, .step step_⟩
  | ok next =>
    by_cases link : ∃ target, disk.nodeAt next = .ok (.link target)
    · obtain ⟨target, stands⟩ := link
      cases links with
      | zero => exact .inr ⟨_, .link step_ stands⟩
      | succ links => exact .inl ⟨_, .link step_ stands, .inl (Nat.lt_succ_self links)⟩
    · have plain : ∀ target, disk.nodeAt next ≠ .ok (.link target) :=
        fun target stands => link ⟨target, stands⟩
      exact .inl ⟨_, .step step_ plain, .inr ⟨rfl, Nat.lt_succ_self rest.length⟩⟩

/-- A search comes to its end or gets stuck. -/
lemma exists_end (disk : Disk) (s : Search) :
    (∃ place links, Comes disk s ⟨place, [], links⟩) ∨ ∃ t e, Comes disk s t ∧ Stuck disk t e := by
  obtain done | ⟨t, moves, less⟩ | ⟨e, stuck⟩ := progress disk s
  · obtain ⟨place, ahead, links⟩ := s
    cases done
    exact .inl ⟨place, links, .refl⟩
  · obtain ⟨last, links, comes⟩ | ⟨u, e, comes, stuck⟩ := exists_end disk t
    · exact .inl ⟨last, links, .head moves comes⟩
    · exact .inr ⟨u, e, .head moves comes, stuck⟩
  · exact .inr ⟨s, e, .refl, stuck⟩
-- A link brings new components along, so links count before components.
termination_by (s.links, s.ahead.length)
decreasing_by exact Prod.lex_def.mpr less

/-- A walk succeeds where its search comes to an end. -/
lemma outcome_eq_ok {place : Place} :
    s.outcome disk = .ok place ↔ ∃ links, Comes disk s ⟨place, [], links⟩ := by
  constructor
  · intro arrived
    obtain ⟨last, links, comes⟩ | ⟨t, e, comes, stuck⟩ := exists_end disk s
    · rw [comes.outcome, outcome_nil] at arrived
      cases arrived
      exact ⟨links, comes⟩
    · rw [comes.outcome, stuck.outcome] at arrived
      cases arrived
  · rintro ⟨links, comes⟩
    rw [comes.outcome, outcome_nil]

/-- A walk fails where its search gets stuck, for the same reason. -/
lemma outcome_eq_error : s.outcome disk = .error e ↔ ∃ t, Comes disk s t ∧ Stuck disk t e := by
  constructor
  · intro failed
    obtain ⟨last, links, comes⟩ | ⟨t, e', comes, stuck⟩ := exists_end disk s
    · rw [comes.outcome, outcome_nil] at failed
      cases failed
    · rw [comes.outcome, stuck.outcome] at failed
      cases failed
      exact ⟨t, comes, stuck⟩
  · rintro ⟨t, comes, stuck⟩
    exact comes.outcome.trans stuck.outcome

/-- Further components behind those of a search wait for it. -/
lemma Moves.append (moves : Moves disk s t) (more : List (List Char)) :
    Moves disk ⟨s.place, s.ahead ++ more, s.links⟩ ⟨t.place, t.ahead ++ more, t.links⟩ := by
  cases moves with
  | step step_ plain => exact .step step_ plain
  | link step_ stands =>
    rw [List.append_assoc]
    exact .link step_ stands

/-- Further components wait for a search to come somewhere. -/
lemma Comes.append (comes : Comes disk s t) (more : List (List Char)) :
    Comes disk ⟨s.place, s.ahead ++ more, s.links⟩ ⟨t.place, t.ahead ++ more, t.links⟩ := by
  induction comes with
  | refl => exact .refl
  | tail _ moves ih => exact ih.tail (moves.append more)

/-- Further components do not help a search that is stuck. -/
lemma Stuck.append (stuck : Stuck disk s e) (more : List (List Char)) :
    Stuck disk ⟨s.place, s.ahead ++ more, s.links⟩ e := by
  cases stuck with
  | step stop => exact .step stop
  | link step_ stands => exact .link step_ stands

end Search

/-! ## Steps -/

/-- A place without a node has nothing there. -/
lemma nodeAt_error {disk : Disk} {place e} (none_ : disk.nodeAt place = .error e) :
    e = .missing := by
  rw [nodeAt] at none_
  split at none_
  · cases none_
  · cases none_
  · cases none_
  · cases none_
    rfl

/-- The working directory and the directories above it are there. -/
lemma nodeAt_above {disk : Disk} {place : Place} (above : place.isPrefixOf disk.current = true) :
    ∃ searchable, disk.nodeAt place = .ok (.directory searchable) := by
  rw [nodeAt, above]
  split
  · exact ⟨_, rfl⟩
  · exact ⟨_, rfl⟩
  · rename_i other
    cases other
  · rename_i other
    cases other

/-- A component leads nowhere exactly if it is too long. -/
lemma follow_eq_error {place : Place} {component : List Char} {e} :
    follow place component = .error e ↔ 255 < byteLength component ∧ e = .nameTooLong := by
  rw [follow]
  split
  · rename_i dot
    subst dot
    exact ⟨nofun, fun stop => absurd stop.1 (by decide)⟩
  · split
    · rename_i up
      subst up
      exact ⟨nofun, fun stop => absurd stop.1 (by decide)⟩
    · split
      · rename_i long
        exact ⟨fun stop => ⟨long, (Except.error.inj stop).symm⟩, fun stop => by rw [stop.2]⟩
      · rename_i short
        exact ⟨nofun, fun stop => absurd stop.1 short⟩

/-- A name that is short enough leads to the place below. -/
lemma follow_name {place : Place} {n : List Char} (name : Path.isName n = true)
    (plain : n ≠ ['.', '.']) (short : ¬ 255 < byteLength n) : follow place n = .ok (place ++ [n]) := by
  have dot : n ≠ ['.'] := by
    rintro rfl
    cases name
  rw [follow, if_neg dot, if_neg plain, if_neg short]

/-- A component from a directory that may be searched is followed. -/
lemma step_directory {disk : Disk} {place component}
    (directory : disk.nodeAt place = .ok .directory) (full : component ≠ []) :
    disk.step place component = follow place component := by
  rw [step, directory]
  cases component with
  | nil => exact absurd rfl full
  | cons => rfl

/-- A step out of a directory with a name to follow means that it may be searched. -/
lemma directory_of_step {disk : Disk} {place component next}
    (step_ : disk.step place component = .ok next) (full : component ≠ []) :
    disk.nodeAt place = .ok .directory := by
  rw [step] at step_
  split at step_
  · cases step_
  · rename_i searchable directory
    cases component with
    | nil => exact absurd rfl full
    | cons =>
      cases searchable with
      | true => exact directory
      | false => cases step_
  · cases step_

/-- A step fails for more than an absence where its name is too long, or the directory is closed. -/
lemma step_eq_error {disk : Disk} {place component e} (open_ : e.meansAbsence = false) :
    disk.step place component = .error e ↔
      (disk.nodeAt place = .ok .directory ∧ 255 < byteLength component ∧ e = .nameTooLong) ∨
      (disk.nodeAt place = .ok (.directory false) ∧ component ≠ [] ∧ e = .denied) := by
  constructor
  · intro stop
    rw [step] at stop
    split at stop
    · rename_i none_
      cases stop
      cases nodeAt_error none_
      cases open_
    · rename_i searchable directory
      cases component with
      | nil => cases stop
      | cons c rest =>
        cases searchable with
        | false =>
          cases stop
          exact .inr ⟨directory, List.cons_ne_nil _ _, rfl⟩
        | true =>
          obtain ⟨long, rfl⟩ := follow_eq_error.mp stop
          exact .inl ⟨directory, long, rfl⟩
    · cases stop
      cases open_
  · rintro (⟨directory, long, rfl⟩ | ⟨directory, full, rfl⟩)
    · have full : component ≠ [] := by
        rintro rfl
        exact absurd long (by decide)
      rw [step_directory directory full, follow_eq_error.mpr ⟨long, rfl⟩]
    · rw [step, directory]
      cases component with
      | nil => exact absurd rfl full
      | cons => rfl

/-! ## Paths without an answer -/

/-- The search for a path. -/
def searchFor (disk : Disk) (path : Path) : Search :=
  ⟨startOf disk.current path.write, Path.splitSlash path.write, maxLinks⟩

/-- The disk does not tell what is at a path, which holds no NUL: its text is too long, or the
search for it comes to a name that is too long, or to a directory that may not be searched. -/
inductive Unanswered (disk : Disk) (path : Path) : Failure → Prop where
  | longText :
    hasNul path.write = false →
    4096 ≤ byteLength path.write →
    Unanswered disk path (.system .nameTooLong path.toString)
  | longName {place name rest links} :
    hasNul path.write = false →
    byteLength path.write < 4096 →
    Comes disk (disk.searchFor path) ⟨place, name :: rest, links⟩ →
    disk.nodeAt place = .ok .directory →
    255 < byteLength name →
    Unanswered disk path (.system .nameTooLong path.toString)
  | closed {place component rest links} :
    hasNul path.write = false →
    byteLength path.write < 4096 →
    Comes disk (disk.searchFor path) ⟨place, component :: rest, links⟩ →
    disk.nodeAt place = .ok (.directory false) →
    component ≠ [] →
    Unanswered disk path (.system .denied path.toString)

section Paths

variable {disk : Disk} {path : Path} {f : Failure}

/-- A path without an answer could be asked for. -/
lemma Unanswered.nul (unanswered : disk.Unanswered path f) : hasNul path.write = false := by
  cases unanswered with
  | longText nul => exact nul
  | longName nul => exact nul
  | closed nul => exact nul

/-- A path of admissible length leads where its search does. -/
lemma locate_eq (short : byteLength path.write < 4096) :
    disk.locate path.write = (disk.searchFor path).outcome disk := by
  rw [locate, if_neg (Nat.not_le.mpr short)]
  rfl

/-- Finding fails for more than an absence where the search is stuck. -/
lemma find_eq_error {e} (short : byteLength path.write < 4096) (open_ : e.meansAbsence = false) :
    disk.find path.write = .error e ↔ ∃ t, Comes disk (disk.searchFor path) t ∧ Stuck disk t e := by
  rw [← outcome_eq_error, find, locate_eq short]
  cases arrived : (disk.searchFor path).outcome disk with
  | error e' => simp
  | ok place =>
    refine ⟨fun none_ => ?_, nofun⟩
    cases nodeAt_error none_
    cases open_

/-- Finding fails for more than an absence where the text is too long, or the search is held up. -/
lemma find_eq_open {e} (nul : hasNul path.write = false) :
    disk.find path.write = .error e ∧ e.meansAbsence = false ↔
      Unanswered disk path (.system e path.toString) := by
  constructor
  · rintro ⟨failed, open_⟩
    by_cases long : 4096 ≤ byteLength path.write
    · rw [find, locate, if_pos long] at failed
      cases failed
      exact .longText nul long
    · have short := Nat.not_le.mp long
      obtain ⟨t, comes, stuck⟩ := (find_eq_error short open_).mp failed
      cases stuck with
      | step stop =>
        obtain ⟨directory, name, rfl⟩ | ⟨directory, full, rfl⟩ := (step_eq_error open_).mp stop
        · exact .longName nul short comes directory name
        · exact .closed nul short comes directory full
      | link => cases open_
  · intro unanswered
    cases unanswered with
    | longText _ long =>
      rw [find, locate, if_pos long]
      exact ⟨rfl, rfl⟩
    | longName _ short comes directory long =>
      have stop := (step_eq_error rfl).mpr (.inl ⟨directory, long, rfl⟩)
      exact ⟨(find_eq_error short rfl).mpr ⟨_, comes, .step stop⟩, rfl⟩
    | closed _ short comes directory full =>
      have stop := (step_eq_error rfl).mpr (.inr ⟨directory, full, rfl⟩)
      exact ⟨(find_eq_error short rfl).mpr ⟨_, comes, .step stop⟩, rfl⟩

/-- The failure of a path without an answer is that of the disk, about this path. -/
lemma Unanswered.failure (unanswered : disk.Unanswered path f) :
    ∃ e, f = .system e path.toString := by
  cases unanswered with
  | longText => exact ⟨_, rfl⟩
  | longName => exact ⟨_, rfl⟩
  | closed => exact ⟨_, rfl⟩

/-- The disk has no answer about a path exactly where the search for it is held up. -/
lemma probe_error_iff : disk.probe path = .error f ↔ Unanswered disk path f := by
  constructor
  · intro stop
    rw [probe] at stop
    split at stop
    · cases stop
    · rename_i nul
      split at stop
      · cases stop
      · rename_i failed
        split at stop
        · cases stop
        · rename_i open_
          cases stop
          exact (find_eq_open (Bool.of_not_eq_true nul)).mp
            ⟨failed, Bool.of_not_eq_true open_⟩
  · intro unanswered
    obtain ⟨e, rfl⟩ := unanswered.failure
    obtain ⟨failed, open_⟩ := (find_eq_open unanswered.nul).mpr unanswered
    rw [probe, unanswered.nul, failed]
    simp only [open_]
    rfl

/-- Whether there is a file at a path stays open exactly where the search for it is held up. -/
lemma hasFile_error_iff : disk.hasFile path = .error f ↔ Unanswered disk path f := by
  rw [← probe_error_iff, hasFile]
  cases disk.probe path with
  | error f' => simp [Except.map]
  | ok node => simp [Except.map]

end Paths

/-! ## Paths in a directory that can be reached -/

/-- Where a search for a path with a root starts. -/
def startIn (disk : Disk) : Root → Place
  | .relative => disk.current
  | .slash => []
  | .doubleSlash => []

/-- The search for a normal path goes over its root and then over its names. -/
lemma searchFor_eq (disk : Disk) {p : Path} (some_ : p.parts ≠ []) (normal : p.Normal) :
    disk.searchFor p = ⟨disk.startIn p.root, Path.leading p.root ++ p.parts, maxLinks⟩ := by
  obtain ⟨c, s, e, other⟩ := Path.joinSlash_cons some_ normal.names normal.free
  have start : startOf disk.current p.write = disk.startIn p.root := by
    rw [Path.write_eq some_ normal.names, e]
    cases p.root with
    | slash => rfl
    | doubleSlash => rfl
    | relative =>
      have relative : Path.Root.chars .relative ++ c :: s = c :: s := rfl
      rw [relative]
      unfold startOf
      split
      -- Names are not empty, so a relative text is not taken for one with a root.
      · rename_i slash
        exact absurd (List.cons.inj slash).1 other
      · rfl
  rw [searchFor, Path.splitSlash_write some_ normal, start]

/-- What is found is at the end of a search. -/
lemma arrives_of_find {disk : Disk} {p : Path} {node} (found : disk.find p.write = .ok node) :
    ∃ place, (disk.searchFor p).outcome disk = .ok place ∧ disk.nodeAt place = .ok node := by
  have short : byteLength p.write < 4096 := by
    refine Nat.not_le.mp fun long => ?_
    rw [find, locate, if_pos long] at found
    cases found
  rw [find, locate_eq short] at found
  split at found
  · cases found
  · exact ⟨_, by assumption, found⟩

/-- A search stays in a directory for empty components, and for dots if it may be searched. -/
lemma outcome_dots {disk : Disk} {place searchable} {components : List (List Char)} {links : Nat}
    (directory : disk.nodeAt place = .ok (.directory searchable))
    (dots : ∀ c ∈ components, c = [] ∨ c = ['.'] ∧ searchable = true) :
    (Search.mk place components links).outcome disk = .ok place := by
  have plain : ∀ target, disk.nodeAt place ≠ .ok (.link target) := by
    intro target
    rw [directory]
    nofun
  induction components with
  | nil => exact outcome_nil disk place links
  | cons component rest ih =>
    have step_ : disk.step place component = .ok place := by
      rw [step, directory]
      obtain rfl | ⟨rfl, rfl⟩ := dots component List.mem_cons_self
      · rfl
      · rfl
    have moves : Moves disk ⟨place, component :: rest, links⟩ ⟨place, rest, links⟩ :=
      .step step_ plain
    rw [moves.outcome]
    exact ih fun c mem => dots c (List.mem_cons_of_mem component mem)

/-- The place where a search starts is that of a directory. -/
lemma nodeAt_startIn (disk : Disk) (root : Root) :
    ∃ searchable, disk.nodeAt (disk.startIn root) = .ok (.directory searchable) := by
  cases root with
  | relative => exact nodeAt_above (List.isPrefixOf_iff_prefix.mpr List.prefix_rfl)
  | slash => exact nodeAt_above rfl
  | doubleSlash => exact nodeAt_above rfl

/-- A path without names leads to the directory where its search starts. -/
lemma find_bare {disk : Disk} {p : Path} {node} (none_ : p.parts = [])
    (found : disk.find p.write = .ok node) :
    disk.nodeAt (disk.startIn p.root) = .ok node ∧ ∃ searchable, node = .directory searchable := by
  obtain ⟨place, arrives, stands⟩ := arrives_of_find found
  obtain ⟨searchable, directory⟩ := disk.nodeAt_startIn p.root
  have stays : (disk.searchFor p).outcome disk = .ok (disk.startIn p.root) := by
    obtain ⟨root, parts⟩ := p
    cases none_
    cases root with
    | slash =>
      have empty : ∀ c ∈ Path.splitSlash ['/'], c = [] ∨ c = ['.'] ∧ searchable = true := by
        simp [Path.splitSlash]
      exact outcome_dots directory empty
    | doubleSlash =>
      have empty : ∀ c ∈ Path.splitSlash ['/', '/'], c = [] ∨ c = ['.'] ∧ searchable = true := by
        simp [Path.splitSlash]
      exact outcome_dots directory empty
    | relative =>
      cases searchable with
      | true =>
        have dot : ∀ c ∈ Path.splitSlash ['.'], c = [] ∨ c = ['.'] ∧ true = true := by decide
        exact outcome_dots directory dot
      | false =>
        have stop : disk.step (disk.startIn .relative) ['.'] = .error .denied := by
          rw [step, directory]
          rfl
        have stuck : Stuck disk (disk.searchFor ⟨.relative, []⟩) .denied := .step stop
        cases stuck.outcome.symm.trans arrives
  cases stays.symm.trans arrives
  cases directory.symm.trans stands
  exact ⟨directory, searchable, rfl⟩

/-- The directory of a path can be reached and searched. -/
def Reaches (disk : Disk) (p : Path) : Prop :=
  ∃ place links, Comes disk ⟨disk.startIn p.root, Path.leading p.root ++ p.parts.dropLast, maxLinks⟩
    ⟨place, [], links⟩ ∧ disk.nodeAt place = .ok .directory

/-- The directory of a path that leads somewhere can be reached and searched. -/
lemma reaches_of_find {disk : Disk} {p : Path} {node} (some_ : p.parts ≠ []) (normal : p.Normal)
    (found : disk.find p.write = .ok node) : disk.Reaches p := by
  obtain ⟨last, arrives, -⟩ := arrives_of_find found
  rw [searchFor_eq disk some_ normal, Path.parts_eq some_, ← List.append_assoc] at arrives
  obtain ⟨place, links, comes⟩ | ⟨t, e, comes, stuck⟩ :=
    exists_end disk ⟨disk.startIn p.root, Path.leading p.root ++ p.parts.dropLast, maxLinks⟩
  · refine ⟨place, links, comes, ?_⟩
    have full := Path.ne_nil_of_isName (normal.names _ (Path.name_mem some_))
    have rest := (comes.append [p.name]).outcome.symm.trans arrives
    -- The last name is still to be followed, which takes a directory that may be searched.
    cases step_ : disk.step place p.name with
    | ok next => exact directory_of_step step_ full
    | error e =>
      have stuck : Stuck disk ⟨place, [p.name], links⟩ e := .step step_
      cases stuck.outcome.symm.trans rest
  · cases ((comes.append _).outcome.trans (stuck.append _).outcome).symm.trans arrives

/-- The directory of a path can be reached and searched if it is found so. -/
lemma reaches_of_parent {disk : Disk} {p : Path} (normal : p.Normal)
    (found : disk.find (parent p).write = .ok .directory) : disk.Reaches p := by
  by_cases bare : p.parts.dropLast = []
  · obtain ⟨directory, -⟩ := find_bare bare found
    have leading : ∀ c ∈ Path.leading p.root, c = [] ∨ c = ['.'] ∧ true = true := by
      cases p.root <;> decide
    obtain ⟨links, comes⟩ := outcome_eq_ok.mp (outcome_dots directory leading)
    refine ⟨_, links, ?_, directory⟩
    rw [bare, List.append_nil]
    exact comes
  · have normal' : (parent p).Normal :=
      ⟨fun n mem => normal.names n ((List.dropLast_sublist _).subset mem),
        fun n mem => normal.free n ((List.dropLast_sublist _).subset mem)⟩
    obtain ⟨place, arrives, directory⟩ := arrives_of_find found
    rw [searchFor_eq disk bare normal'] at arrives
    obtain ⟨links, comes⟩ := outcome_eq_ok.mp arrives
    exact ⟨place, links, comes, directory⟩

/-- Where the directory of a path can be reached and searched, the search for the path comes to its
name. -/
lemma Reaches.comes {disk : Disk} {p : Path} (reaches : disk.Reaches p) (some_ : p.parts ≠ [])
    (normal : p.Normal) :
    ∃ place links, disk.nodeAt place = .ok .directory ∧
      Comes disk (disk.searchFor p) ⟨place, [p.name], links⟩ := by
  obtain ⟨place, links, comes, directory⟩ := reaches
  refine ⟨place, links, directory, ?_⟩
  rw [searchFor_eq disk some_ normal, Path.parts_eq some_, ← List.append_assoc]
  exact comes.append [p.name]

/-- A link stands under the last name of a path. -/
def LinkAt (disk : Disk) (path : Path) : Prop :=
  ∃ place links target, Comes disk (disk.searchFor path) ⟨place, [path.name], links⟩ ∧
    disk.nodeAt (place ++ [path.name]) = .ok (.link target)

/-- On a disk without links, none stands there. -/
lemma not_linkAt {disk : Disk} (free : ∀ place target, (place, Node.link target) ∉ disk.nodes)
    (path : Path) : ¬ disk.LinkAt path := by
  rintro ⟨place, links, target, -, stands⟩
  rw [nodeAt] at stands
  split at stands
  · cases stands
  · cases stands
  · rename_i node other found _
    cases stands
    obtain ⟨before, after, nodes, -⟩ := List.lookup_eq_some_iff.mp found
    refine free (place ++ [path.name]) target ?_
    rw [nodes]
    exact List.mem_append_right before List.mem_cons_self
  · cases stands

section Reached

variable {disk : Disk} {p : Path} (reaches : disk.Reaches p) (some_ : p.parts ≠ [])
  (normal : p.Normal)
include reaches some_ normal

/-- In a directory that can be reached and searched, a path whose text or whose last name is too
long has no answer. -/
lemma unanswered_of_long (nul : hasNul p.write = false)
    (long : 4096 ≤ byteLength p.write ∨ 255 < byteLength p.name) :
    disk.Unanswered p (.system .nameTooLong p.toString) := by
  obtain ⟨place, links, directory, comes⟩ := reaches.comes some_ normal
  by_cases text : 4096 ≤ byteLength p.write
  · exact .longText nul text
  · exact .longName nul (Nat.not_le.mp text) comes directory (long.resolve_left text)

/-- A path in it that is short enough, and where no link stands, is found or missing. -/
lemma find_of_short (plain : p.name ≠ ['.', '.']) (unlinked : ¬ disk.LinkAt p)
    (text : byteLength p.write < 4096) (name : ¬ 255 < byteLength p.name) :
    ∃ place, disk.find p.write = disk.nodeAt place := by
  obtain ⟨place, links, directory, comes⟩ := reaches.comes some_ normal
  have isName := normal.names _ (Path.name_mem some_)
  have step_ : disk.step place p.name = .ok (place ++ [p.name]) := by
    rw [step_directory directory (Path.ne_nil_of_isName isName), follow_name isName plain name]
  have bare : ∀ target, disk.nodeAt (place ++ [p.name]) ≠ .ok (.link target) :=
    fun target stands => unlinked ⟨place, links, target, comes, stands⟩
  have last : Comes disk (disk.searchFor p) ⟨place ++ [p.name], [], links⟩ :=
    comes.tail (.step step_ bare)
  have arrives := last.outcome
  rw [outcome_nil] at arrives
  exact ⟨place ++ [p.name], by rw [find, locate_eq text, arrives]⟩

/-- In a directory that can be reached and searched, and where no link stands, a path has no answer
exactly if its text or its last name is too long. -/
lemma unanswered_iff_long {f : Failure} (plain : p.name ≠ ['.', '.'])
    (unlinked : ¬ disk.LinkAt p) :
    disk.Unanswered p f ↔ hasNul p.write = false ∧
      (4096 ≤ byteLength p.write ∨ 255 < byteLength p.name) ∧
      f = .system .nameTooLong p.toString := by
  constructor
  · intro unanswered
    have nul := unanswered.nul
    have stop := probe_error_iff.mpr unanswered
    by_cases long : 4096 ≤ byteLength p.write ∨ 255 < byteLength p.name
    · have stop' := probe_error_iff.mpr (unanswered_of_long reaches some_ normal nul long)
      cases stop.symm.trans stop'
      exact ⟨nul, long, rfl⟩
    · obtain ⟨text, name⟩ := not_or.mp long
      obtain ⟨place, answer⟩ := find_of_short reaches some_ normal plain unlinked
        (Nat.not_le.mp text) name
      rw [probe, nul, answer] at stop
      cases stands : disk.nodeAt place with
      | ok node =>
        rw [stands] at stop
        cases stop
      | error e =>
        cases nodeAt_error stands
        rw [stands] at stop
        cases stop
  · rintro ⟨nul, long, rfl⟩
    exact unanswered_of_long reaches some_ normal nul long

end Reached

end PEInspect.Disk
