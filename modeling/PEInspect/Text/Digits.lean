import PEInspect.Text.Blank
import PEInspect.Text.Defect

/-!
# Decimal digits and integers in text

The decimal digits of every script, which come in runs of ten, and the reader of a whole number
in base ten: blanks around it, one sign, and digits that single underscores may group. The digits
are counted as soon as they end, so that too many of them are noticed before what follows them.
-/

namespace PEInspect.Text

/-- The code points of the digits zero; the digits one to nine of a script follow its zero. -/
def digitZeros : List Nat := [
  0x30, 0x660, 0x6F0, 0x7C0, 0x966, 0x9E6, 0xA66, 0xAE6, 0xB66, 0xBE6, 0xC66, 0xCE6, 0xD66,
   0xDE6, 0xE50, 0xED0, 0xF20, 0x1040, 0x1090, 0x17E0, 0x1810, 0x1946, 0x19D0, 0x1A80, 0x1A90,
   0x1B50, 0x1BB0, 0x1C40, 0x1C50, 0xA620, 0xA8D0, 0xA900, 0xA9D0, 0xA9F0, 0xAA50, 0xABF0,
   0xFF10, 0x104A0, 0x10D30, 0x11066, 0x110F0, 0x11136, 0x111D0, 0x112F0, 0x11450, 0x114D0,
   0x11650, 0x116C0, 0x11730, 0x118E0, 0x11950, 0x11C50, 0x11D50, 0x11DA0, 0x16A60, 0x16AC0,
   0x16B50, 0x1D7CE, 0x1D7D8, 0x1D7E2, 0x1D7EC, 0x1D7F6, 0x1E140, 0x1E2F0, 0x1E950, 0x1FBF0]

/-- The value of a decimal digit of any script. -/
def digitValue? (c : Char) : Option Nat :=
  (digitZeros.find? fun z => z ≤ c.toNat && c.toNat < z + 10).map (c.toNat - ·)

/-- The digits that follow a first one; an underscore stands only between two digits. -/
def digitsAfter : List Char → Option (List Nat)
  | [] => some []
  | [c] => (digitValue? c).map ([·])
  | '_' :: c :: rest => do
    let d ← digitValue? c
    let ds ← digitsAfter rest
    return d :: ds
  | c :: rest => do
    let d ← digitValue? c
    let ds ← digitsAfter rest
    return d :: ds

/-- The number that a list of digits writes in base `base`, most significant digit first. -/
def numberOfDigits (base : Nat) (digits : List Nat) : Nat :=
  digits.foldl (fun n d => n * base + d) 0

/-- A digit, then grouped digits. -/
def groupedDigits? : List Char → Option (List Nat)
  | [] => none
  | c :: rest => do
    let d ← digitValue? c
    let ds ← digitsAfter rest
    return d :: ds

/-- The digits and underscores at the start of a text. -/
def digitRun (s : List Char) : List Char :=
  s.takeWhile fun c => c == '_' || (digitValue? c).isSome

/-- An unsigned number, with nothing after its digits. -/
def readMagnitude (s : List Char) : Except Defect Int := do
  let run := digitRun s
  let digits ← Defect.ofOption (groupedDigits? run)
  let n ← checkDigits digits fun ds => numberOfDigits 10 ds
  if run.length < s.length then throw .malformed
  return n

/-- A blank that may surround a number: an ASCII one, or any blank beyond ASCII. -/
def isMargin (c : Char) : Bool :=
  if c.toNat < 0x80 then isAsciiBlank c else isBlank c

/-- The text without the blanks around it. -/
def trimMargin (s : List Char) : List Char :=
  ((s.dropWhile isMargin).reverse.dropWhile isMargin).reverse

/-- A whole number with an optional sign, surrounded by blanks. -/
def readInteger (s : List Char) : Except Defect Int :=
  match trimMargin s with
  | '-' :: rest => (readMagnitude rest).map Int.neg
  | '+' :: rest => readMagnitude rest
  | rest => readMagnitude rest

end PEInspect.Text
