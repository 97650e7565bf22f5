import Mathlib.Tactic.Lemma
import PEInspect.Disk

/-!
# Answers of the disk

How the ways of asking a disk about a path hang together: reading a file, telling whether there is
anything at a path, and telling whether there is a file.
-/

namespace PEInspect

/-- Only a file that may be read gives a content. -/
lemma Node.content_eq_ok {node : Node} {content : Bytes} :
    node.content = .ok content ↔ node = .file content := by
  cases node with
  | file _ readable => cases readable <;> simp [Node.content]
  | directory => simp [Node.content]
  | link => simp [Node.content]

namespace Disk

/-- A file that can be read is found under its path. -/
lemma find_of_read {disk : Disk} {path content} (rd : disk.read path = .ok content) :
    hasNul path.write = false ∧ disk.find path.write = .ok (.file content) := by
  rw [read] at rd
  split at rd
  · cases rd
  · rename_i nul
    refine ⟨by simpa using nul, ?_⟩
    cases found : disk.find path.write with
    | error e =>
      rw [found] at rd
      cases rd
    | ok node =>
      rw [found, Except.bind] at rd
      cases gives : node.content with
      | error e =>
        rw [gives] at rd
        cases rd
      | ok content' =>
        rw [gives] at rd
        cases rd
        rw [Node.content_eq_ok.mp gives]

/-- A file that is found and may be read can be read. -/
lemma read_of_find {disk : Disk} {path content} (nul : hasNul path.write = false)
    (found : disk.find path.write = .ok (.file content)) : disk.read path = .ok content := by
  rw [read, nul, found]
  rfl

/-- There is something at the path of a file that can be read. -/
lemma has_of_read {disk : Disk} {path content} (rd : disk.read path = .ok content) :
    disk.has path = .ok true := by
  obtain ⟨nul, found⟩ := find_of_read rd
  simp only [has, probe, nul, found, Except.map, Option.isSome_some, Bool.false_eq_true, if_false]

/-- There is a file at the path of a file that can be read. -/
lemma hasFile_of_read {disk : Disk} {path content} (rd : disk.read path = .ok content) :
    disk.hasFile path = .ok true := by
  obtain ⟨nul, found⟩ := find_of_read rd
  simp only [hasFile, probe, nul, found, Except.map, Bool.false_eq_true, if_false]

/-- A path is not read because it holds NUL or because the file system turns it down. -/
lemma read_error {disk : Disk} {path f} (rd : disk.read path = .error f) :
    (hasNul path.write = true ∧ f = .nulInPath) ∨
      (hasNul path.write = false ∧ ∃ e p, f = .system e p) := by
  rw [read] at rd
  split at rd
  · rename_i nul
    exact .inl ⟨nul, (Except.error.inj rd).symm⟩
  · rename_i free
    refine .inr ⟨by simpa using free, ?_⟩
    split at rd
    · cases rd
    · exact ⟨_, _, (Except.error.inj rd).symm⟩

/-- A path with NUL cannot be read. -/
lemma read_nul {disk : Disk} {path} (nul : hasNul path.write = true) :
    disk.read path = .error .nulInPath := by
  rw [read, if_pos nul]

/-- What is there can be read unless the file system turns the path down. -/
lemma system_of_read_error {disk : Disk} {path f} (there : disk.has path = .ok true)
    (rd : disk.read path = .error f) : ∃ e p, f = .system e p := by
  obtain ⟨nul, -⟩ | ⟨-, system⟩ := read_error rd
  · rw [has, probe, if_pos nul] at there
    cases there
  · exact system

/-- A file that is there is found, whether or not it may be read. -/
lemma find_of_hasFile {disk : Disk} {path} (there : disk.hasFile path = .ok true) :
    hasNul path.write = false ∧
      ∃ content readable, disk.find path.write = .ok (.file content readable) := by
  rw [hasFile, probe] at there
  split at there
  · cases there
  · rename_i nul
    refine ⟨by simpa using nul, ?_⟩
    split at there
    · rename_i node found
      cases node with
      | file content readable => exact ⟨content, readable, found⟩
      | directory => cases there
      | link => cases there
    · split at there <;> cases there

end Disk

end PEInspect
