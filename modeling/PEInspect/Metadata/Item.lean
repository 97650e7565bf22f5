import PEInspect.Failure
import PEInspect.Number.Shortest
import PEInspect.Text.Digits
import PEInspect.Text.Utf8

/-!
# Items of metadata rows

A cell of a metadata row holds a plain value or a box around another cell. The text of a cell unwraps
one box, decodes bytes as UTF-8 and writes other values out; a missing value is the empty text, and a
box in the box is written as a box. A version part is a cell read as a whole number, where nothing
counts as zero.
-/

namespace PEInspect

/-- A plain value of a cell. -/
inductive Plain where
  | absent
  | text (s : String)
  | integer (i : Int)
  | boolean (b : Bool)
  | float (x : Number.Binary64)
  | raw (bytes : List UInt8)
  deriving Repr, DecidableEq, Inhabited

/-- A cell of a metadata row: a plain value, or a box around a cell. -/
inductive Item where
  | plain (p : Plain)
  | boxed (inner : Item)
  deriving Repr, DecidableEq

instance : Inhabited Item := ⟨.plain .absent⟩

/-- The text of a plain value. -/
def Plain.display : Plain → String
  | .absent => ""
  | .text s => s
  | .integer i => toString i
  | .boolean b => if b then "True" else "False"
  | .float x => x.text
  | .raw bytes => String.ofList (Text.decodeLossy bytes)

/-- A plain value as a box around it shows it: texts and bytes are quoted. -/
def Plain.shown : Plain → String
  | .absent => "None"
  | .text s => Text.quoted s
  | .raw bytes => Text.quotedBytes bytes
  | p => p.display

namespace Item

/-- A cell as a box around it shows it. -/
def shown : Item → String
  | .plain p => p.shown
  | .boxed inner => "namespace(value=" ++ inner.shown ++ ")"

/-- The text of a cell. -/
def display : Item → String
  | .plain p => p.display
  | .boxed (.plain p) => p.display
  | .boxed (.boxed inner) => (boxed inner).shown

end Item

/-- How much of a text a failure to read a number from it shows. -/
def shownLength : Nat := 200

/-- A number from characters, with the text that a failure shows the start of. -/
def integerFrom (chars : List Char) (shown : String) : Except Failure Int :=
  match Text.readInteger chars with
  | .ok i => .ok i
  | .error defect =>
    .error (.ofDefect (.notInteger (String.ofList (shown.toList.take shownLength))) defect)

/-- A byte as a character; beyond ASCII bytes stand for no digits and no blanks. -/
def byteChar (b : UInt8) : Char :=
  if b < 0x80 then Char.ofNat b.toNat else '\uFFFD'

/-- A plain value read as a whole number; fractions are cut off, and empty values are zero. -/
def Plain.number : Plain → Except Failure Int
  | .absent => .ok 0
  | .text s => if s.isEmpty then .ok 0 else integerFrom s.toList (Text.quoted s)
  | .integer i => .ok i
  | .boolean b => .ok (if b then 1 else 0)
  | .float x =>
    match x.truncate? with
    | some i => .ok i
    | none => .error (.notFinite (if x = .nan then "NaN" else "infinity"))
  | .raw bytes =>
    if bytes.isEmpty then .ok 0
    else integerFrom (bytes.map byteChar) (Text.quotedBytes (bytes.take shownLength))

/-- A cell read as a part of a version; a box is no number. -/
def Item.number : Item → Except Failure Int
  | .plain p => p.number
  | .boxed _ => .error (.notIntegerKind "types.SimpleNamespace")

end PEInspect
