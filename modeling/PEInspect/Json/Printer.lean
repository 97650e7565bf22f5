import PEInspect.Document.Value
import PEInspect.Number.Shortest
import PEInspect.Text.Defect
import PEInspect.Text.Quoted

/-!
# Writing JSON

Values as JSON text in ASCII: one line with a blank after each comma and colon, or one line per
item with a given indentation. Infinities and the value that is not a number keep their names.
Dates and times have no JSON form, and neither have whole numbers of too many digits.
-/

namespace PEInspect.Json

open Document

/-- How items are laid out: in one line, or one to a line below a margin. -/
inductive Layout where
  | compact
  | indented (unit : List Char)
  deriving Repr, DecidableEq

/-- The escape of one 16-bit unit. -/
def escapeUnit (n : Nat) : List Char :=
  '\\' :: 'u' :: Text.hexDigits 4 n

/-- How one character is written inside quotation marks. Beyond the basic plane it is written as
its two surrogate units. -/
def escapeChar (c : Char) : List Char :=
  if c = '"' ∨ c = '\\' then ['\\', c]
  else if c = '\n' then ['\\', 'n']
  else if c = '\r' then ['\\', 'r']
  else if c = '\t' then ['\\', 't']
  else if c = '\x0c' then ['\\', 'f']
  else if c = '\x08' then ['\\', 'b']
  else if ' ' ≤ c ∧ c ≤ '~' then [c]
  else if c.toNat < 0x10000 then escapeUnit c.toNat
  else
    let n := c.toNat - 0x10000
    escapeUnit (0xD800 + n / 0x400) ++ escapeUnit (0xDC00 + n % 0x400)

/-- A text in quotation marks. -/
def printText (s : String) : List Char :=
  '"' :: s.toList.flatMap escapeChar ++ ['"']

/-- A whole number in base ten. -/
def printInt (i : Int) : List Char :=
  if i < 0 then '-' :: Nat.toDigits 10 i.natAbs else Nat.toDigits 10 i.natAbs

/-- A floating-point number; the special values have names. -/
def printFloat : Number.Binary64 → List Char
  | .nan => "NaN".toList
  | .infinite negative => (if negative then "-Infinity" else "Infinity").toList
  | x => x.text.toList

/-- The line break before an item at a depth, empty in one-line layout. -/
def Layout.break : Layout → Nat → List Char
  | .compact, _ => []
  | .indented unit, depth => '\n' :: (List.replicate depth unit).flatten

/-- What stands between two items at a depth. -/
def Layout.separator : Layout → Nat → List Char
  | .compact, _ => [',', ' ']
  | .indented unit, depth => ',' :: Layout.break (.indented unit) depth

mutual

/-- The text of a value whose items stand at a depth. Dates and times are written as null here;
`Json.write` refuses them before. -/
def print (layout : Layout) (depth : Nat) : Value → List Char
  | .null => "null".toList
  | .bool b => (if b then "true" else "false").toList
  | .int i => printInt i
  | .float x => printFloat x
  | .text s => printText s
  | .list [] => ['[', ']']
  | .list (v :: rest) =>
    '[' :: layout.break (depth + 1) ++ print layout (depth + 1) v ++
      printItems layout (depth + 1) rest ++ layout.break depth ++ [']']
  | .table [] => ['{', '}']
  | .table ((k, v) :: rest) =>
    '{' :: layout.break (depth + 1) ++ printText k ++ ':' :: ' ' :: print layout (depth + 1) v ++
      printEntries layout (depth + 1) rest ++ layout.break depth ++ ['}']
  | .date _ | .time _ | .moment _ => "null".toList

/-- The further items of a list, each after a separator. -/
def printItems (layout : Layout) (depth : Nat) : List Value → List Char
  | [] => []
  | v :: rest =>
    layout.separator depth ++ print layout depth v ++ printItems layout depth rest

/-- The further entries of a table, each after a separator. -/
def printEntries (layout : Layout) (depth : Nat) : List (String × Value) → List Char
  | [] => []
  | (k, v) :: rest =>
    layout.separator depth ++ printText k ++ ':' :: ' ' :: print layout depth v ++
      printEntries layout depth rest

end

mutual

/-- The first part of a value that has no JSON form, in reading order. -/
def firstFormless? : Value → Option Value
  | .date d => some (.date d)
  | .time t => some (.time t)
  | .moment m => some (.moment m)
  | .int i => if Text.isLongNumber i then some (.int i) else none
  | .list items => firstFormlessItem? items
  | .table entries => firstFormlessField? entries
  | _ => none

/-- The first part without a JSON form inside the items of a list. -/
def firstFormlessItem? : List Value → Option Value
  | [] => none
  | v :: rest => (firstFormless? v).or (firstFormlessItem? rest)

/-- The first part without a JSON form inside the entries of a table. -/
def firstFormlessField? : List (String × Value) → Option Value
  | [] => none
  | (_, v) :: rest => (firstFormless? v).or (firstFormlessField? rest)

end

/-- Writes a value, or gives the part of it that has no JSON form. -/
def write (layout : Layout) (v : Value) : Except Value String :=
  match firstFormless? v with
  | some part => .error part
  | none => .ok (String.ofList (print layout 0 v))

end PEInspect.Json
