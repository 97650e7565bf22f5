/-!
# Defects of texts

Why a reader turns a text down. Most texts that are turned down break the rules of their format.
Two defects have nothing to do with the format: a whole number that is written with more digits
than numbers may have, and parts that lie inside each other too deeply. A reader meets the defects
of a text from its start to its end, and the first one counts.
-/

namespace PEInspect

/-- Why a text is turned down. -/
inductive Defect where
  /-- The text breaks the rules of its format. -/
  | malformed
  /-- A whole number has this many digits, which is too many. -/
  | longNumber (digits : Nat)
  /-- Lists and tables lie inside each other too deeply. -/
  | deepNesting
  deriving Repr, DecidableEq, Inhabited

namespace Defect

/-- The result of a reader that finds nothing in a malformed text. -/
def ofOption {α : Type} (found : Option α) : Except Defect α :=
  match found with
  | some x => .ok x
  | none => .error .malformed

/-- What is found is the result. -/
@[simp] theorem ofOption_some {α : Type} (x : α) : ofOption (some x) = .ok x := rfl

end Defect

namespace Text

/-- The most decimal digits that a whole number is read or written with. -/
def maxDigits : Nat := 4300

/-- Whether a whole number takes more decimal digits than it may have. -/
def isLongNumber (i : Int) : Bool :=
  Nat.pow 10 maxDigits ≤ i.natAbs

/-- The number that a reader makes of decimal digits, unless there are too many of them. -/
def checkDigits {α : Type} (digits : List α) (number : List α → Int) : Except Defect Int :=
  if maxDigits < digits.length then .error (.longNumber digits.length) else .ok (number digits)

end Text

end PEInspect
