import Mathlib.Data.List.GetD
import Mathlib.Tactic.Lemma
import PEInspect.World.Object

/-!
# Arenas

What adding and changing objects does to the number of objects of a kind and to the object behind a
reference, and how changes of all objects go together with both.
-/

namespace PEInspect.Arena

variable {kind : ObjectKind} {α β : Type} [Inhabited α]

/-- References to one place are one reference. -/
lemma ref_ext {r s : Ref kind} (e : r.index = s.index) : r = s := by
  cases r
  cases s
  exact congrArg Ref.mk e

omit [Inhabited α] in
/-- Adding an object makes one more. -/
@[simp] lemma length_add (a : Arena kind α) (x : α) :
    (a.add x).cells.length = a.cells.length + 1 := by
  simp [add]

/-- Changing an object makes none. -/
@[simp] lemma length_change (a : Arena kind α) (r : Ref kind) (f : α → α) :
    (a.change r f).cells.length = a.cells.length := by
  simp [change, set]

/-- Adding an object leaves the others as they are. -/
lemma get_add_of_ne (a : Arena kind α) (x : α) {r : Ref kind} (other : r ≠ a.next) :
    (a.add x).get r = a.get r := by
  rcases Nat.lt_trichotomy r.index a.cells.length with lt | same | gt
  · exact get_add_of_lt a x lt
  · exact absurd (ref_ext same) other
  · have out : (a.add x).cells.length ≤ r.index := by
      rw [length_add]
      exact gt
    simp [get, List.getElem?_eq_none out, List.getElem?_eq_none (Nat.le_of_lt gt)]

/-- The object behind a reference after a change. -/
lemma get_change (a : Arena kind α) (r s : Ref kind) (f : α → α) :
    (a.change r f).get s = if s = r ∧ r.index < a.cells.length then f (a.get r) else a.get s := by
  by_cases same : s = r
  · subst same
    by_cases lt : s.index < a.cells.length
    · rw [change, get_set_self a _ lt, if_pos ⟨rfl, lt⟩]
    · rw [if_neg fun h => lt h.2]
      simp [change, set, get, List.set_eq_of_length_le (Nat.le_of_not_lt lt)]
  · rw [if_neg fun h => same h.1, change, get_set_of_ne a _ (Ne.symm same)]

/-- What a change keeps at its object, it keeps at every object. -/
lemma get_change_same {a : Arena kind α} {r : Ref kind} {f : α → α} (p : α → β)
    (e : p (f (a.get r)) = p (a.get r)) (s : Ref kind) : p ((a.change r f).get s) = p (a.get s) := by
  rw [get_change]
  split
  · rename_i h
    rw [e, h.1]
  · rfl

/-- A change that leaves its object as it is changes nothing. -/
lemma change_same {a : Arena kind α} {r : Ref kind} {f : α → α} (e : f (a.get r) = a.get r) :
    a.change r f = a := by
  rw [change, set, e, get, List.getD_eq_getElem?_getD]
  by_cases lt : r.index < a.cells.length
  · rw [List.getElem?_eq_getElem lt, Option.getD_some, List.set_getElem_self]
  · rw [List.set_eq_of_length_le (Nat.le_of_not_lt lt)]

/-- Two changes of one object are one change. -/
lemma change_change (a : Arena kind α) (r : Ref kind) (f g : α → α) :
    (a.change r f).change r g = a.change r (g ∘ f) := by
  by_cases lt : r.index < a.cells.length
  · have got : (a.change r f).get r = f (a.get r) := get_set_self a _ lt
    rw [change, got, change, change, set, set, set, List.set_set]
    rfl
  · have out (x : α) : a.cells.set r.index x = a.cells :=
      List.set_eq_of_length_le (Nat.le_of_not_lt lt)
    simp only [change, set, out]

/-! ## Changes of all objects -/

/-- The object behind a reference after all have been changed; one that was never made counts too. -/
lemma get_map (a : Arena kind α) {f : α → α} (e : f default = default) (r : Ref kind) :
    (a.map f).get r = f (a.get r) := by
  have got : (a.cells.map f).getD r.index (f default) = f (a.get r) := List.getD_map _ _ f
  rw [e] at got
  exact got

/-- A change of one object commutes with a change of all of them. -/
lemma map_change (a : Arena kind α) {f g h : α → α} (e : f default = default)
    (commute : ∀ x, f (g x) = h (f x)) (r : Ref kind) :
    (a.change r g).map f = (a.map f).change r h := by
  rw [change, change, get_map a e, ← commute, set, set, map, map, List.map_set]

end PEInspect.Arena
