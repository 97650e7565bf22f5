import PEInspect.Document.Value
import PEInspect.Text.Defect

/-!
# Numbers and dates of TOML

Readers of whole and floating-point numbers, dates, times and moments. Single underscores may group
the digits of a number; hexadecimal, octal and binary numbers have a mark and no sign. Only the
digits of whole decimal numbers are limited.
-/

namespace PEInspect.Toml

open Document

/-- The digits that follow a first digit; an underscore stands only between two digits. -/
def digitsAfter (isDigit : Char → Bool) : List Char → List Char × List Char
  | '_' :: c :: rest =>
    if isDigit c then
      let (digits, rest) := digitsAfter isDigit rest
      (c :: digits, rest)
    else ([], '_' :: c :: rest)
  | c :: rest =>
    if isDigit c then
      let (digits, rest) := digitsAfter isDigit rest
      (c :: digits, rest)
    else ([], c :: rest)
  | [] => ([], [])

/-- A run of grouped digits, if the text starts with a digit. -/
def readDigits (isDigit : Char → Bool) : List Char → Option (List Char × List Char)
  | c :: rest =>
    if isDigit c then
      let (digits, rest) := digitsAfter isDigit rest
      some (c :: digits, rest)
    else none
  | [] => none

/-- The value of a digit in any base up to sixteen. -/
def digitOf (c : Char) : Nat :=
  if c.isDigit then c.toNat - 48 else c.toLower.toNat - 87

/-- The number that digits write in a base. -/
def numberIn (base : Nat) (digits : List Char) : Nat :=
  digits.foldl (fun n c => n * base + digitOf c) 0

/-- The digits of the sixteen-ary system. -/
def isHexDigit (c : Char) : Bool :=
  c.isDigit || ('a' ≤ c && c ≤ 'f') || ('A' ≤ c && c ≤ 'F')

/-- A whole number with a mark for its base. -/
def readMarked? : List Char → Option (Value × List Char)
  | '0' :: mark :: rest =>
    let number (base : Nat) (isDigit : Char → Bool) : Option (Value × List Char) :=
      (readDigits isDigit rest).map fun (digits, rest) => (.int (numberIn base digits), rest)
    if mark = 'x' then number 16 isHexDigit
    else if mark = 'b' then number 2 fun c => c = '0' || c = '1'
    else if mark = 'o' then number 8 fun c => '0' ≤ c && c ≤ '7'
    else none
  | _ => none

/-- The fraction after a point, empty if there is none. -/
def readFraction (s : List Char) : List Char × List Char :=
  match s with
  | '.' :: rest => (readDigits Char.isDigit rest).getD ([], s)
  | s => ([], s)

/-- A sign, if the text starts with one, and whether it is a minus. -/
def readSign : List Char → Bool × List Char
  | '-' :: rest => (true, rest)
  | '+' :: rest => (false, rest)
  | s => (false, s)

/-- The exponent after its letter, if there is one. -/
def readExponent (s : List Char) : Option Int × List Char :=
  match s with
  | c :: rest =>
    if c = 'e' ∨ c = 'E' then
      let (negative, tail) := readSign rest
      match readDigits Char.isDigit tail with
      | some (digits, rest) =>
        let size : Int := numberIn 10 digits
        (some (if negative then -size else size), rest)
      | none => (none, s)
    else (none, s)
  | [] => (none, s)

/-- The whole part of a decimal number: a single zero, or digits that do not start with one. -/
def readWhole : List Char → Option (List Char × List Char)
  | '0' :: rest => some (['0'], rest)
  | s => readDigits Char.isDigit s

/-- A decimal number, if the text starts with one; with a fraction or an exponent it is a
floating-point one. -/
def readDecimal? (s : List Char) : Option (Except Defect (Value × List Char)) := do
  let (negative, rest) := readSign s
  let (whole, rest) ← readWhole rest
  let (fraction, rest) := readFraction rest
  let (exponent, rest) := readExponent rest
  if fraction.isEmpty && exponent.isNone then
    let number := Text.checkDigits whole fun digits => numberIn 10 digits
    return number.map fun n => (.int (if negative then -n else n), rest)
  else
    let x := Number.Binary64.ofDecimal negative (numberIn 10 (whole ++ fraction))
      (exponent.getD 0 - fraction.length)
    return .ok (.float x, rest)

/-- The floating-point values that have names, with an optional sign. -/
def readNamedFloat? (s : List Char) : Option (Value × List Char) :=
  let (negative, rest) := readSign s
  match rest with
  | 'i' :: 'n' :: 'f' :: rest => some (.float (.infinite negative), rest)
  | 'n' :: 'a' :: 'n' :: rest => some (.float .nan, rest)
  | _ => none

/-! ## Dates and times -/

/-- A number of two digits within bounds. -/
def twoDigits? (low high : Nat) (a b : Char) : Option Nat :=
  if a.isDigit && b.isDigit then
    let n := numberIn 10 [a, b]
    if low ≤ n ∧ n ≤ high then some n else none
  else none

/-- A fraction of a second in microseconds; digits beyond the sixth are dropped. -/
def readMicros (s : List Char) : Nat × List Char :=
  match s with
  | '.' :: rest =>
    match rest.takeWhile Char.isDigit with
    | [] => (0, s)
    | digits =>
      let six := (digits ++ List.replicate 6 '0').take 6
      (numberIn 10 six, rest.dropWhile Char.isDigit)
  | s => (0, s)

/-- A time of day. -/
def readTime? : List Char → Option (Time × List Char)
  | a :: b :: ':' :: c :: d :: ':' :: e :: f :: rest => do
    let hour ← twoDigits? 0 23 a b
    let minute ← twoDigits? 0 59 c d
    let second ← twoDigits? 0 59 e f
    let (micros, rest) := readMicros rest
    return (⟨hour, minute, second, micros⟩, rest)
  | _ => none

/-- The digits of a date; the day may not exist in its month. -/
def readDate? : List Char → Option (Date × List Char)
  | y1 :: y2 :: y3 :: y4 :: '-' :: a :: b :: '-' :: c :: d :: rest => do
    let century ← twoDigits? 0 99 y1 y2
    let year ← twoDigits? 0 99 y3 y4
    let month ← twoDigits? 1 12 a b
    let day ← twoDigits? 1 31 c d
    return (⟨century * 100 + year, month, day⟩, rest)
  | _ => none

/-- The offset from universal time in minutes, if one follows. -/
def readOffset (s : List Char) : Option Int × List Char :=
  match s with
  | c :: rest =>
    if c = 'Z' ∨ c = 'z' then (some 0, rest)
    else if c = '+' ∨ c = '-' then
      match rest with
      | a :: b :: ':' :: d :: e :: tail =>
        match twoDigits? 0 23 a b, twoDigits? 0 59 d e with
        | some hours, some minutes =>
          let size : Int := hours * 60 + minutes
          (some (if c = '-' then -size else size), tail)
        | _, _ => (none, s)
      | _ => (none, s)
    else (none, s)
  | [] => (none, s)

/-- A date, alone or with a time and an offset. The outer result says whether the text starts like
a date, the inner one is missing when the day does not exist. -/
def readMoment? (s : List Char) : Option (Option (Value × List Char)) := do
  let (date, rest) ← readDate? s
  let value : Value × List Char :=
    match rest with
    | c :: tail =>
      if c = 'T' ∨ c = 't' ∨ c = ' ' then
        match readTime? tail with
        | some (time, tail) =>
          let (offset, tail) := readOffset tail
          (.moment ⟨date, time, offset⟩, tail)
        | none => (.date date, rest)
      else (.date date, rest)
    | [] => (.date date, rest)
  return if date.exists? then some value else none

end PEInspect.Toml
