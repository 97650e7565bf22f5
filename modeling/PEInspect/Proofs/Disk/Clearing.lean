import PEInspect.Proofs.Disk.Walk

/-!
# Clearing a disk

A disk from which the files with some contents are removed. For a path it answers as the disk does
on which they stand, except that such a file is gone (`cleared_without`). A walk through such a file
fails on both disks, though not in the same way.
-/

namespace PEInspect

namespace Document.Entries

variable {κ ν : Type} [BEq κ] [LawfulBEq κ]

/-- A filter on keys leaves what stands under the keys that it keeps. -/
lemma lookup_filter_key (entries : Entries κ ν) (keep : κ → Bool) (key : κ) :
    (entries.filter fun e => keep e.1).lookup key = if keep key then entries.lookup key else none := by
  induction entries with
  | nil => simp
  | cons e rest ih =>
    obtain ⟨k, v⟩ := e
    rw [List.filter_cons]
    by_cases same : key = k
    · subst same
      cases kept : keep key <;> simp [kept, ih]
    · have apart : (key == k) = false := beq_eq_false_iff_ne.mpr same
      cases keep k <;> simp [List.lookup_cons, apart, ih]

end Document.Entries

namespace Disk

variable {disk : Disk} {unwanted : Bytes → Bool}

/-- Whether a readable file with an unwanted content stands at a place. -/
def holdsUnwanted (disk : Disk) (unwanted : Bytes → Bool) (place : Place) : Bool :=
  match disk.nodes.lookup place with
  | some (.file content true) => unwanted content
  | _ => false

/-- A disk without the readable files that have an unwanted content. -/
def without (disk : Disk) (unwanted : Bytes → Bool) : Disk :=
  { disk with nodes := disk.nodes.filter fun e => !disk.holdsUnwanted unwanted e.1 }

/-- What is left of the answer to a search. -/
def left (unwanted : Bytes → Bool) : Except SystemError Node → Except SystemError Node
  | .ok (.file content true) =>
    if unwanted content then .error .missing else .ok (.file content true)
  | answer => answer

/-- At a place of the cleared disk, the node is left that stood there. -/
lemma nodeAt_without (place : Place) :
    (disk.without unwanted).nodeAt place = left unwanted (disk.nodeAt place) := by
  have rest : (disk.without unwanted).nodes.lookup place =
      if !disk.holdsUnwanted unwanted place then disk.nodes.lookup place else none :=
    Document.Entries.lookup_filter_key disk.nodes
      (fun place => !disk.holdsUnwanted unwanted place) place
  have current : (disk.without unwanted).current = disk.current := rfl
  rw [nodeAt, nodeAt, current, rest, holdsUnwanted]
  cases disk.nodes.lookup place with
  | none => cases place.isPrefixOf disk.current <;> rfl
  | some node =>
    cases node with
    | directory => rfl
    | link => cases place.isPrefixOf disk.current <;> rfl
    | file content readable =>
      cases readable with
      | false => cases place.isPrefixOf disk.current <;> rfl
      | true =>
        cases held : unwanted content <;> cases place.isPrefixOf disk.current <;> simp [left, held]

/-- The answers of the cleared disk to a step: as before, or from an unwanted file, now gone. -/
lemma step_without (disk : Disk) (unwanted : Bytes → Bool) (place : Place)
    (component : List Char) :
    (disk.without unwanted).step place component = disk.step place component ∨
      disk.step place component = .error .notDirectory ∧
        (disk.without unwanted).step place component = .error .missing := by
  rw [step, step, nodeAt_without]
  cases disk.nodeAt place with
  | error e => exact .inl rfl
  | ok node =>
    cases node with
    | directory => exact .inl rfl
    | link => exact .inl rfl
    | file content readable =>
      cases readable with
      | false => exact .inl rfl
      | true =>
        cases held : unwanted content with
        | false => simp [left, held]
        | true => simp [left, held]

/-- Clearing leaves all links, and makes none. -/
lemma link_without {place : Place} {target : List Char} :
    (disk.without unwanted).nodeAt place = .ok (.link target) ↔
      disk.nodeAt place = .ok (.link target) := by
  rw [nodeAt_without]
  cases disk.nodeAt place with
  | error e => exact Iff.rfl
  | ok node =>
    cases node with
    | directory => exact Iff.rfl
    | link => exact Iff.rfl
    | file content readable =>
      cases readable with
      | false => exact Iff.rfl
      | true => cases held : unwanted content <;> simp [left, held]

/-- A search moves on the cleared disk as before, unless it comes to an unwanted file in its way. -/
lemma Moves.without {s t : Search} (moves : Moves disk s t) :
    Moves (disk.without unwanted) s t := by
  have kept {place component next} (step_ : disk.step place component = .ok next) :
      (disk.without unwanted).step place component = .ok next := by
    obtain same | ⟨blocked, -⟩ := step_without disk unwanted place component
    · exact same.trans step_
    · cases blocked.symm.trans step_
  cases moves with
  | step step_ plain =>
    exact .step (kept step_) fun target stands => plain target (link_without.mp stands)
  | link step_ stands => exact .link (kept step_) (link_without.mpr stands)

/-- A walk ends as before, but for an unwanted file in its way. -/
lemma outcome_without (s : Search) :
    s.outcome (disk.without unwanted) = s.outcome disk ∨
      s.outcome disk = .error .notDirectory ∧
        s.outcome (disk.without unwanted) = .error .missing := by
  have lifted {t} (comes : Comes disk s t) : Comes (disk.without unwanted) s t := by
    induction comes with
    | refl => exact .refl
    | tail _ moves ih => exact ih.tail moves.without
  obtain ⟨place, links, comes⟩ | ⟨t, e, comes, stuck⟩ := exists_end disk s
  · left
    rw [comes.outcome, (lifted comes).outcome, outcome_nil, outcome_nil]
  · rw [comes.outcome, (lifted comes).outcome, stuck.outcome]
    cases stuck with
    | @step place component rest links e stop =>
      obtain same | ⟨blocked, missing⟩ := step_without disk unwanted place component
      · left
        have stuck : Stuck (disk.without unwanted) ⟨place, component :: rest, links⟩ e :=
          .step (same.trans stop)
        exact stuck.outcome
      -- No walk leads through a file, and through one that goes even less.
      · right
        have stuck : Stuck (disk.without unwanted) ⟨place, component :: rest, links⟩ .missing :=
          .step missing
        cases blocked.symm.trans stop
        exact ⟨rfl, stuck.outcome⟩
    | @link place component rest next target step_ stands =>
      left
      obtain same | ⟨blocked, -⟩ := step_without disk unwanted place component
      · have stuck : Stuck (disk.without unwanted) ⟨place, component :: rest, 0⟩ .loop :=
          .link (same.trans step_) (link_without.mpr stands)
        exact stuck.outcome
      · cases blocked.symm.trans step_

/-- A path leads where it led before, but for an unwanted file in its way. -/
lemma locate_without (disk : Disk) (unwanted : Bytes → Bool) (path : List Char) :
    (disk.without unwanted).locate path = disk.locate path ∨
      disk.locate path = .error .notDirectory ∧
        (disk.without unwanted).locate path = .error .missing := by
  rw [locate, locate]
  split
  · exact .inl rfl
  · exact outcome_without ⟨startOf disk.current path, Path.splitSlash path, maxLinks⟩

/-- A search ends as before, but for an unwanted file in its way or at its end. -/
lemma find_without (disk : Disk) (unwanted : Bytes → Bool) (path : List Char) :
    (disk.without unwanted).find path = left unwanted (disk.find path) ∨
      disk.find path = .error .notDirectory ∧
        (disk.without unwanted).find path = .error .missing := by
  rw [find, find]
  obtain same | ⟨blocked, missing⟩ := locate_without disk unwanted path
  · left
    rw [same]
    cases disk.locate path with
    | error e => rfl
    | ok place => exact nodeAt_without place
  · right
    rw [blocked, missing]
    exact ⟨rfl, rfl⟩

/-- At a path, a disk differs from another by at most a file with an unwanted content. -/
structure ClearedAt (unwanted : Bytes → Bool) (disk disk' : Disk) (path : Path) : Prop where
  gone {content} : disk.read path = .ok content → unwanted content = true →
    disk'.has path = .ok false
  kept : (∀ content, disk.read path = .ok content → unwanted content = false) →
    disk'.has path = disk.has path ∧ (disk.has path = .ok true → disk'.read path = disk.read path)

/-- A search that does not end at an unwanted file ends as before, or fails on both disks. -/
lemma find_without_of_wanted {path : Path} (nul : hasNul path.write = false)
    (wanted : ∀ content, disk.read path = .ok content → unwanted content = false) :
    (disk.without unwanted).find path.write = disk.find path.write ∨
      disk.find path.write = .error .notDirectory ∧
        (disk.without unwanted).find path.write = .error .missing := by
  obtain same | apart := find_without disk unwanted path.write
  · left
    rw [same]
    cases found : disk.find path.write with
    | error e => rfl
    | ok node =>
      cases node with
      | directory => rfl
      | link => rfl
      | file content readable =>
        cases readable with
        | false => rfl
        | true =>
          rw [left, wanted content (read_of_find nul found)]
          rfl
  · exact .inr apart

/-- A disk without unwanted files is cleared at every path. -/
lemma cleared_without (disk : Disk) (unwanted : Bytes → Bool) (path : Path) :
    ClearedAt unwanted disk (disk.without unwanted) path where
  gone := by
    intro content rd held
    obtain ⟨nul, found⟩ := find_of_read rd
    have missing : (disk.without unwanted).find path.write = .error .missing := by
      obtain same | ⟨_, missing⟩ := find_without disk unwanted path.write
      · rw [same, found, left, if_pos held]
      · exact missing
    rw [has, probe, nul, missing]
    rfl
  kept := by
    intro wanted
    cases nul : hasNul path.write with
    | true =>
      have nowhere (d : Disk) : d.has path = .ok false := by
        rw [has, probe, nul]
        rfl
      rw [nowhere, nowhere]
      refine ⟨rfl, fun there => ?_⟩
      cases there
    | false =>
      obtain same | ⟨blocked, missing⟩ := find_without_of_wanted nul wanted
      · have answers : (disk.without unwanted).has path = disk.has path := by
          rw [has, has, probe, probe, same]
        refine ⟨answers, fun _ => ?_⟩
        rw [read, read, same]
      · have before : disk.has path = .ok false := by
          rw [has, probe, nul, blocked]
          rfl
        have after : (disk.without unwanted).has path = .ok false := by
          rw [has, probe, nul, missing]
          rfl
        rw [before, after]
        refine ⟨rfl, fun there => ?_⟩
        cases there

end Disk

end PEInspect
