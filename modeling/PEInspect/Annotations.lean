import PEInspect.Document.Entries

/-!
# Annotations

Auxiliary data of a file, in slots that are addressed by a key and a kind of value. The slots are
kept in the order of their creation, and an index lists the kinds under each key, so that all slots
of a key can be found and removed together.
-/

namespace PEInspect

open Document

/-- Slots by key and kind, with the index of kinds by key. -/
structure Annotations (κ τ ν : Type) where
  slots : Entries (κ × τ) ν := []
  kinds : Entries κ (List τ) := []
  deriving Repr, Inhabited

namespace Annotations

variable {κ τ ν : Type} [BEq κ] [BEq τ]

/-- The value in a slot. -/
def find? (a : Annotations κ τ ν) (key : κ) (kind : τ) : Option ν :=
  a.slots.lookup (key, kind)

/-- Puts a value into a slot and enters the slot into the index. -/
def put (a : Annotations κ τ ν) (key : κ) (kind : τ) (value : ν) : Annotations κ τ ν :=
  let present := (a.kinds.lookup key).getD []
  { slots := Entries.insert a.slots (key, kind) value
    kinds := Entries.insert a.kinds key
      (if present.contains kind then present else present ++ [kind]) }

/-- The slots without one of them, which has to exist. -/
def dropSlot? (slots : Entries (κ × τ) ν) (key : κ) (kind : τ) : Option (Entries (κ × τ) ν) :=
  if Entries.has slots (key, kind) then some (Entries.erase slots (key, kind)) else none

/-- Removes some kinds of a key; `left` are the kinds that stay under it. Missing if the index
lists a slot that does not exist. -/
def removeKinds? (a : Annotations κ τ ν) (key : κ) (removed left : List τ) :
    Option (Annotations κ τ ν) := do
  let slots ← removed.foldlM (fun slots kind => dropSlot? slots key kind) a.slots
  return {
    slots := slots
    kinds := if left.isEmpty then Entries.erase a.kinds key else Entries.insert a.kinds key left }

/-- Removes the slot of a key and a kind, or all slots of a key. Slots that do not exist are
nothing to remove; the answer is missing only if the index is out of step with the slots. -/
def remove? (a : Annotations κ τ ν) (key : κ) (kind : Option τ) : Option (Annotations κ τ ν) :=
  match a.kinds.lookup key, kind with
  | none, _ => some a
  | some present, none => a.removeKinds? key present []
  | some present, some kind =>
    if present.contains kind then a.removeKinds? key [kind] (present.filter fun k => !(k == kind))
    else some a

/-- Whether a key has a slot, as the index knows it. -/
def hasKey (a : Annotations κ τ ν) (key : κ) : Bool :=
  Entries.has a.kinds key

/-- The number of slots. -/
def size (a : Annotations κ τ ν) : Nat :=
  a.slots.length

/-- The addresses of the slots in the order of their creation. -/
def toList (a : Annotations κ τ ν) : List (κ × τ) :=
  a.slots.map (·.1)

end Annotations

end PEInspect
