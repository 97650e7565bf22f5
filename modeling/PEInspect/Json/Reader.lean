import PEInspect.Document.Value
import PEInspect.Text.Defect

/-!
# Reading JSON

The reader of JSON documents. It knows the names of the infinities and of the value that is not a
number, keeps whole numbers exact, and lets the last of several equal keys win. A document is turned
down at the first defect from its start: where it is malformed, where a whole number has too many
digits, or where lists and tables lie inside each other too deeply.
-/

namespace PEInspect.Json

open Document

/-- The four blanks of JSON. -/
def isBlank (c : Char) : Bool :=
  c = ' ' || c = '\t' || c = '\n' || c = '\r'

/-- The text after leading blanks. -/
def skipBlanks (s : List Char) : List Char :=
  s.dropWhile isBlank

/-- The value of a hexadecimal digit. -/
def hexValue? (c : Char) : Option Nat :=
  if '0' ≤ c ∧ c ≤ '9' then some (c.toNat - 48)
  else if 'a' ≤ c ∧ c ≤ 'f' then some (c.toNat - 87)
  else if 'A' ≤ c ∧ c ≤ 'F' then some (c.toNat - 55)
  else none

/-- The number that four hexadecimal digits write. -/
def hexUnit? (a b c d : Char) : Option Nat := do
  let a ← hexValue? a
  let b ← hexValue? b
  let c ← hexValue? c
  let d ← hexValue? d
  return ((a * 16 + b) * 16 + c) * 16 + d

/-- The character that a backslash and a letter stand for. -/
def shortEscape? (c : Char) : Option Nat :=
  if c = '"' ∨ c = '\\' ∨ c = '/' then some c.toNat
  else if c = 'b' then some 0x08
  else if c = 'f' then some 0x0C
  else if c = 'n' then some 0x0A
  else if c = 'r' then some 0x0D
  else if c = 't' then some 0x09
  else none

/-- The units of a text up to its closing quotation mark, and what follows. A unit is a character
or a 16-bit number from an escape. -/
def readUnits : List Char → Option (List Nat × List Char)
  | [] => none
  | '"' :: rest => some ([], rest)
  | '\\' :: 'u' :: a :: b :: c :: d :: rest => do
    let n ← hexUnit? a b c d
    let (units, rest) ← readUnits rest
    return (n :: units, rest)
  | '\\' :: c :: rest => do
    let n ← shortEscape? c
    let (units, rest) ← readUnits rest
    return (n :: units, rest)
  | c :: rest =>
    if c.toNat < 0x20 then none
    else do
      let (units, rest) ← readUnits rest
      return (c.toNat :: units, rest)

/-- A unit that starts a surrogate pair. -/
def isHighSurrogate (n : Nat) : Bool :=
  0xD800 ≤ n && n < 0xDC00

/-- A unit that ends a surrogate pair. -/
def isLowSurrogate (n : Nat) : Bool :=
  0xDC00 ≤ n && n < 0xE000

/-- A unit by itself; a lone surrogate becomes U+FFFD. -/
def charOfUnit (n : Nat) : Char :=
  if 0xD800 ≤ n ∧ n < 0xE000 then Char.ofNat 0xFFFD else Char.ofNat n

/-- The characters of a list of units, with surrogate pairs joined. -/
def joinUnits : List Nat → List Char
  | [] => []
  | [n] => [charOfUnit n]
  | a :: b :: rest =>
    if isHighSurrogate a && isLowSurrogate b then
      Char.ofNat (0x10000 + (a - 0xD800) * 0x400 + (b - 0xDC00)) :: joinUnits rest
    else charOfUnit a :: joinUnits (b :: rest)

/-- A text after its opening quotation mark. -/
def readText (s : List Char) : Option (String × List Char) :=
  (readUnits s).map fun (units, rest) => (String.ofList (joinUnits units), rest)

/-- The number that decimal digits write. -/
def decimal (digits : List Char) : Nat :=
  digits.foldl (fun n c => n * 10 + (c.toNat - 48)) 0

/-- A fraction: a point and at least one digit. -/
def readFraction (s : List Char) : List Char × List Char :=
  match s with
  | '.' :: rest =>
    match rest.takeWhile Char.isDigit with
    | [] => ([], s)
    | digits => (digits, rest.dropWhile Char.isDigit)
  | _ => ([], s)

/-- An exponent: a letter, an optional sign and at least one digit. -/
def readExponent (s : List Char) : Option Int × List Char :=
  match s with
  | c :: rest =>
    if c = 'e' ∨ c = 'E' then
      let (negative, tail) := match rest with
        | '-' :: tail => (true, tail)
        | '+' :: tail => (false, tail)
        | tail => (false, tail)
      match tail.takeWhile Char.isDigit with
      | [] => (none, s)
      | digits =>
        let size : Int := decimal digits
        (some (if negative then -size else size), tail.dropWhile Char.isDigit)
    else (none, s)
  | [] => (none, s)

/-- The deepest that lists and tables may lie inside each other. The format sets no such limit: this
is where one interpreter, as it is set up by default, was measured to run out of room. -/
def maxDepth : Nat := 985

/-- A number without its sign. The whole part is a single zero or starts with another digit; with
a fraction or an exponent the number is a floating-point one. -/
def readMagnitude (negative : Bool) (s : List Char) : Except Defect (Value × List Char) := do
  let digits := s.takeWhile Char.isDigit
  let (whole, rest) := match digits with
    | '0' :: _ => (['0'], s.drop 1)
    | _ => (digits, s.dropWhile Char.isDigit)
  if whole.isEmpty then throw .malformed
  let (fraction, rest) := readFraction rest
  let (exponent, rest) := readExponent rest
  if fraction.isEmpty && exponent.isNone then
    let n ← Text.checkDigits whole fun digits => decimal digits
    return (.int (if negative then -n else n), rest)
  else
    let x := Number.Binary64.ofDecimal negative (decimal (whole ++ fraction))
      (exponent.getD 0 - fraction.length)
    return (.float x, rest)

/-- A value that is a word or a number. -/
def readScalar : List Char → Except Defect (Value × List Char)
  | 'n' :: 'u' :: 'l' :: 'l' :: rest => .ok (.null, rest)
  | 't' :: 'r' :: 'u' :: 'e' :: rest => .ok (.bool true, rest)
  | 'f' :: 'a' :: 'l' :: 's' :: 'e' :: rest => .ok (.bool false, rest)
  | 'N' :: 'a' :: 'N' :: rest => .ok (.float .nan, rest)
  | 'I' :: 'n' :: 'f' :: 'i' :: 'n' :: 'i' :: 't' :: 'y' :: rest =>
    .ok (.float (.infinite false), rest)
  | '-' :: 'I' :: 'n' :: 'f' :: 'i' :: 'n' :: 'i' :: 't' :: 'y' :: rest =>
    .ok (.float (.infinite true), rest)
  | '-' :: rest => readMagnitude true rest
  | s => readMagnitude false s

mutual

/-- A value at the start of a text; `room` tells how many lists and tables may still open. -/
def readValue : Nat → Nat → List Char → Except Defect (Value × List Char)
  | 0, _, _ => .error .malformed
  | fuel + 1, room, s =>
    match s with
    | '"' :: rest => do
      let (t, rest) ← Defect.ofOption (readText rest)
      return (.text t, rest)
    | '[' :: rest => do
      if room = 0 then throw .deepNesting
      match skipBlanks rest with
      | ']' :: rest => return (.list [], rest)
      | rest =>
        let (items, rest) ← readItems fuel (room - 1) rest
        return (.list items, rest)
    | '{' :: rest => do
      if room = 0 then throw .deepNesting
      match skipBlanks rest with
      | '}' :: rest => return (.table [], rest)
      | rest =>
        let (pairs, rest) ← readEntries fuel (room - 1) rest
        return (.table (Entries.ofPairs pairs), rest)
    | s => readScalar s

/-- The items of a list from the first one to the closing bracket. -/
def readItems : Nat → Nat → List Char → Except Defect (List Value × List Char)
  | 0, _, _ => .error .malformed
  | fuel + 1, room, s => do
    let (v, rest) ← readValue fuel room s
    match skipBlanks rest with
    | ']' :: rest => return ([v], rest)
    | ',' :: rest =>
      let (items, rest) ← readItems fuel room (skipBlanks rest)
      return (v :: items, rest)
    | _ => throw .malformed

/-- The entries of a table from the first key to the closing brace. -/
def readEntries : Nat → Nat → List Char → Except Defect (List (String × Value) × List Char)
  | 0, _, _ => .error .malformed
  | fuel + 1, room, s =>
    match s with
    | '"' :: rest => do
      let (key, rest) ← Defect.ofOption (readText rest)
      match skipBlanks rest with
      | ':' :: rest =>
        let (v, rest) ← readValue fuel room (skipBlanks rest)
        match skipBlanks rest with
        | '}' :: rest => return ([(key, v)], rest)
        | ',' :: rest =>
          let (pairs, rest) ← readEntries fuel room (skipBlanks rest)
          return ((key, v) :: pairs, rest)
        | _ => throw .malformed
      | _ => throw .malformed
    | _ => throw .malformed

end

/-- The value of a whole document. Each step of reading takes a character or descends once, so the
fuel never runs out first. -/
def read (text : String) : Except Defect Value := do
  let s := text.toList
  let (v, rest) ← readValue (2 * s.length + 2) maxDepth (skipBlanks s)
  if (skipBlanks rest).isEmpty then return v else throw .malformed

end PEInspect.Json
