import Mathlib.Tactic.Lemma
import PEInspect.Path.Basic

/-!
# Stems

A text is divided at its last dot, in one way only (`splitLastDot_eq_some_iff`), and not at all if it
has no dot. The stem of a name is a part at its start, and empty only with the name.
-/

namespace PEInspect.Path

variable {s before after : List Char}

/-- Only a text without a dot cannot be split at the last one. -/
lemma splitLastDot_eq_none : splitLastDot s = none ↔ '.' ∉ s := by
  induction s with
  | nil => simp [splitLastDot]
  | cons c rest ih =>
    rw [splitLastDot, List.mem_cons, not_or, ← ih]
    cases splitLastDot rest with
    | some pair => simp
    | none => simp [eq_comm]

/-- A text is divided at a dot with none behind it. -/
lemma splitLastDot_append (before : List Char) (free : '.' ∉ after) :
    splitLastDot (before ++ '.' :: after) = some (before, after) := by
  induction before with
  | nil => rw [List.nil_append, splitLastDot, splitLastDot_eq_none.mpr free, if_pos rfl]
  | cons c rest ih => rw [List.cons_append, splitLastDot, ih]

/-- What stands before the last dot and after it make up a text, and there is no dot after it. -/
lemma splitLastDot_eq_some_iff :
    splitLastDot s = some (before, after) ↔ s = before ++ '.' :: after ∧ '.' ∉ after := by
  constructor
  · intro e
    induction s generalizing before with
    | nil => cases e
    | cons c rest ih =>
      rw [splitLastDot] at e
      cases tail : splitLastDot rest with
      | some pair =>
        rw [tail] at e
        cases e
        obtain ⟨text, free⟩ := ih tail
        exact ⟨congrArg (c :: ·) text, free⟩
      | none =>
        rw [tail] at e
        dsimp only at e
        split at e
        · rename_i dot
          cases e
          exact ⟨congrArg (· :: after) dot, splitLastDot_eq_none.mp tail⟩
        · cases e
  · rintro ⟨rfl, free⟩
    exact splitLastDot_append before free

/-- A stem starts its name. -/
lemma stemOf_prefix (n : List Char) : stemOf n <+: n := by
  rw [stemOf]
  split
  · rename_i before after e
    split
    · exact List.prefix_rfl
    · exact ⟨_, (splitLastDot_eq_some_iff.mp e).1.symm⟩
  · exact List.prefix_rfl

/-- What stands in front of an extension is the stem. -/
lemma stemOf_append (full : before ≠ []) (some_ : after ≠ []) (free : '.' ∉ after) :
    stemOf (before ++ '.' :: after) = before := by
  rw [stemOf, splitLastDot_append before free]
  simp [full, some_]

/-- A name that is not empty has a stem that is not empty. -/
lemma stemOf_ne_nil {n : List Char} (full : n ≠ []) : stemOf n ≠ [] := by
  rw [stemOf]
  split
  · split
    · exact full
    · rename_i ends
      intro e
      rw [e] at ends
      exact ends rfl
  · exact full

end PEInspect.Path
