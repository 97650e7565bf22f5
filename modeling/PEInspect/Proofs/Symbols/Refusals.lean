import PEInspect.Proofs.Opening.Inversion
import PEInspect.Proofs.Path.Normal
import PEInspect.Proofs.Symbols.Inversion

/-!
# Refusals of readers

What the readers of a path answer where the disk has no content for them. Opening an image refuses
every such path and stops at none. Reading symbols, by itself or to attach them to a module, refuses
what the file system turns down, but stops at a path that holds NUL, for which the file system is
never asked (`readers_refuse`).
-/

namespace PEInspect

namespace Disk

/-- A path holds NUL where its text does. -/
lemma hasNul_ofString (text : String) :
    hasNul (Path.ofString text).write = true ↔ '\x00' ∈ text.toList := by
  rw [hasNul, List.contains_iff_mem]
  exact Path.mem_write_read (by decide) (by decide) text.toList

end Disk

namespace Symbols

open PEInspect.Action Opening

/-- A reader has refused a path for a failure. -/
def RefusedFor {α : Type} (f : Failure) (r : Except Refusal α) : Prop :=
  ∃ reason, r = .error ⟨reason, some f⟩

/-- The content of a file does not come into view: it cannot be read, or it is empty and is to be
mapped. -/
inductive Hidden (disk : Disk) (path : Path) (mapped : Bool) : Failure → Prop where
  | unreadable {f} : disk.read path = .error f → Hidden disk path mapped f
  | empty : mapped = true → disk.read path = .ok [] → Hidden disk path mapped .emptyMap

/-- What is not in view is not opened. -/
lemma refusedFor_of_opens {w v : World} {path mapped r f} (ops : Opens path mapped w r v)
    (hid : Hidden w.disk path mapped f) : RefusedFor f r := by
  cases hid with
  | unreadable rd =>
    cases ops with
    | unreadable rd' =>
      cases rd.symm.trans rd'
      exact ⟨_, rfl⟩
    | empty rd' | unsigned rd' | raised rd' | rejected rd' => cases rd.symm.trans rd'
    | found recog => cases rd.symm.trans recog.read
  | empty on rd =>
    -- An empty file has no signature, which all the later ways need.
    have plain : looksLikeImage [] = false := rfl
    cases ops with
    | unreadable rd' => cases rd.symm.trans rd'
    | empty => exact ⟨_, rfl⟩
    | unsigned rd' full =>
      cases rd.symm.trans rd'
      exact absurd rfl (full on)
    | raised rd' signed | rejected rd' signed =>
      cases rd.symm.trans rd'
      cases plain.symm.trans signed
    | found recog =>
      cases rd.symm.trans recog.read
      cases plain.symm.trans recog.signed

section Read

variable {disk : Disk} {path : Path}

/-- Reading symbols stops at a path with NUL. -/
lemma outcome_read_nul (nul : Disk.hasNul path.write = true) :
    (read disk path).outcome.1 = .error .nulInPath := by
  rw [read, Disk.read_nul nul]
  rfl

/-- Reading symbols ends with an answer at any other path. -/
lemma outcome_read (free : Disk.hasNul path.write = false) :
    ∃ r, (read disk path).outcome.1 = .ok r ∧
      ∀ f, disk.read path = .error f → RefusedFor f r := by
  rw [read]
  cases rd : disk.read path with
  | error f =>
    obtain ⟨nul, -⟩ | ⟨-, e, p, rfl⟩ := Disk.read_error rd
    · rw [free] at nul
      cases nul
    · refine ⟨_, rfl, fun f same => ?_⟩
      cases same
      exact ⟨_, rfl⟩
  | ok content =>
    cases known : SymbolFormat.detect? content with
    | none =>
      refine ⟨.error ⟨"unrecognized symbol file format: " ++ path.toString, none⟩, ?_, ?_⟩
      · simp only [known]
        rfl
      · rintro f ⟨⟩
    | some format =>
      refine ⟨.ok ⟨path, format, content⟩, ?_, ?_⟩
      · simp only [known]
        rfl
      · rintro f ⟨⟩

/-- Reading symbols for a module ends as reading them does, and changes the module only where they
are read. -/
lemma exists_loadSymbols (m : Ref .module) (path : Path) (w : World) :
    ∃ v, (Modules.loadSymbols m path).Runs w (read w.disk path).outcome.1 v ∧
      ((∀ s, (read w.disk path).outcome.1 ≠ .ok (.ok s)) → v.modules = w.modules) := by
  have report := runs_ofReport (read w.disk path) w
  rcases answer : (read w.disk path).outcome with ⟨f | result, notices⟩
  · rw [answer] at report
    exact ⟨_, .bind (runs_get w) (.bind_error report), fun _ => rfl⟩
  · rw [answer] at report
    cases result with
    | error refusal =>
      exact ⟨_, .bind (runs_get w) (.bind report (.bind (runs_pure _ _) (runs_pure _ _))),
        fun _ => rfl⟩
    | ok s =>
      exact ⟨_, .bind (runs_get w) (.bind report (.bind (runs_changeModule m _ _) (runs_pure _ _))),
        fun other => absurd rfl (other s)⟩

end Read

/-- Opening the image at a path always ends with an answer, and refuses what is not in view. Reading
symbols at a path, and reading them for a module, end in the same way: they stop exactly if the path
holds NUL, and refuse every other path that the disk fails to read. Unless symbols are read, the
module stays as it was. -/
theorem readers_refuse (w : World) (text : String) :
    (∀ mapped, ∃ r v, (openTarget (.path text) mapped).Runs w (.ok r) v ∧
      ∀ f, Hidden w.disk (.ofString text) mapped f → RefusedFor f r) ∧
    ∃ r, (read w.disk (.ofString text)).outcome.1 = r ∧
      (∀ m, ∃ v, (Modules.loadSymbols m (.ofString text)).Runs w r v ∧
        ((∀ s, r ≠ .ok (.ok s)) → v.modules = w.modules)) ∧
      ((∃ f, r = .error f) ↔ '\x00' ∈ text.toList) ∧
      (∀ f, r = .error f → f = .nulInPath) ∧
      ∀ f answer, r = .ok answer → w.disk.read (.ofString text) = .error f →
        RefusedFor f answer := by
  refine ⟨fun mapped => ?_, (read w.disk (.ofString text)).outcome.1, rfl,
    fun m => exists_loadSymbols m (.ofString text) w, ?_⟩
  · obtain ⟨r, v, run, ops⟩ := exists_opens w text mapped
    exact ⟨r, v, run, fun f => refusedFor_of_opens ops⟩
  · have holds := Disk.hasNul_ofString text
    cases nul : Disk.hasNul (Path.ofString text).write with
    | true =>
      have stop : (read w.disk _).outcome.1 = .error .nulInPath := outcome_read_nul nul
      rw [stop]
      refine ⟨⟨fun _ => holds.mp nul, fun _ => ⟨_, rfl⟩⟩, fun f same => ?_, ?_⟩
      · exact (Except.error.inj same).symm
      · rintro f answer ⟨⟩
    | false =>
      have done : ∃ answer, (read w.disk (.ofString text)).outcome.1 = .ok answer ∧
          ∀ f, w.disk.read (.ofString text) = .error f → RefusedFor f answer := outcome_read nul
      obtain ⟨answer, ended, refuses⟩ := done
      have free : ¬ '\x00' ∈ text.toList := by
        rw [← holds, nul]
        exact Bool.false_ne_true
      rw [ended]
      refine ⟨⟨?_, fun mem => absurd mem free⟩, ?_, fun f answer' same rd => ?_⟩
      · rintro ⟨_, ⟨⟩⟩
      · intro f same
        cases same
      cases same
      exact refuses f rd

/-- The path `Lib\0.pdb` is refused as an image, and stops the readers of symbols. -/
theorem readers_refuse_nul :
    (∃ r v, (openTarget (.path "Lib\x00.pdb") true).Runs {} (.ok r) v ∧
      RefusedFor .nulInPath r) ∧
    (read {} (.ofString "Lib\x00.pdb")).outcome.1 = .error .nulInPath ∧
    ∃ v, (Modules.loadSymbols ⟨0⟩ (.ofString "Lib\x00.pdb")).Runs {} (.error .nulInPath) v := by
  obtain ⟨opens, r, answer, attach, stops, cause, -⟩ := readers_refuse {} "Lib\x00.pdb"
  have mem : '\x00' ∈ "Lib\x00.pdb".toList := by decide
  obtain ⟨f, rfl⟩ := stops.mpr mem
  cases cause f rfl
  have unread : ({} : World).disk.read (.ofString "Lib\x00.pdb") = .error .nulInPath :=
    Disk.read_nul ((Disk.hasNul_ofString _).mpr mem)
  obtain ⟨r, v, run, refuses⟩ := opens true
  obtain ⟨u, attached, -⟩ := attach ⟨0⟩
  exact ⟨⟨r, v, run, refuses _ (.unreadable unread)⟩, answer, u, attached⟩

end Symbols

end PEInspect
