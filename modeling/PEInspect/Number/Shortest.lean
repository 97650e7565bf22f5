import PEInspect.Number.Binary64

/-!
# Shortest decimal text of a double-precision number

The text of a value is the shortest decimal that reads back as it. For each number of digits from
one to seventeen the two neighbours of the value on that decimal grid are tried in exact
arithmetic: the first grid with a neighbour inside the interval of numbers that round to the value
wins, and of two such neighbours the nearer.
-/

namespace PEInspect.Number

/-- Decimal digits and the place of the point: the value is `0.digits · 10 ^ point`. -/
structure Decimal where
  digits : Nat
  point : Int
  deriving Repr, DecidableEq

/-- A positive value and the ends of the interval of numbers that round to it, all over one
denominator; `closed` says whether the ends belong to the interval. -/
structure Rounding where
  value : Nat
  low : Nat
  high : Nat
  den : Nat
  closed : Bool
  deriving Repr, DecidableEq

namespace Rounding

/-- The interval of a finite value. The gap below a power of two is half the gap above it. -/
def ofFinite (m : Nat) (e : Int) : Rounding :=
  let below := if m = Nat.pow 2 52 ∧ e ≠ Binary64.minExponent then 1 else 2
  let (scale, den) := match e with
    | .ofNat e => (Nat.pow 2 e, 4)
    | .negSucc e => (1, 4 * Nat.pow 2 (e + 1))
  ⟨4 * m * scale, (4 * m - below) * scale, (4 * m + 2) * scale, den, m % 2 == 0⟩

/-- Whether `n / d` lies in the interval. -/
def contains (r : Rounding) (n d : Nat) : Bool :=
  if r.closed then r.low * d ≤ n * r.den && n * r.den ≤ r.high * d
  else r.low * d < n * r.den && n * r.den < r.high * d

/-- The number of digits before the point; for a value below one, minus the number of zeros that
follow the point. -/
def point (r : Rounding) : Int :=
  if r.den ≤ r.value then (Binary64.decimalLength (r.value / r.den) : Int)
  else 1 - (Binary64.decimalLength ((r.den + r.value - 1) / r.value - 1) : Int)

/-- The neighbours of the value on the grid with `count` digits: the numerator and the denominator
of the grid's unit, and the multiple of it just below the value. -/
def gridBelow (r : Rounding) (count : Nat) : Nat × Nat × Nat :=
  match r.point - count with
  | .ofNat k => (Nat.pow 10 k, 1, r.value / (r.den * Nat.pow 10 k))
  | .negSucc k => (1, Nat.pow 10 (k + 1), r.value * Nat.pow 10 (k + 1) / r.den)

/-- The better neighbour on the grid with `count` digits, if one reads back as the value. Of two
the nearer is taken, and of two at the same distance the even one. -/
def onGrid? (r : Rounding) (count : Nat) : Option Nat :=
  let (unit, den, n) := r.gridBelow count
  let lower := r.contains (n * unit) den
  let upper := r.contains ((n + 1) * unit) den
  let short := r.value * den - n * unit * r.den
  let excess := (n + 1) * unit * r.den - r.value * den
  if lower && (!upper || short < excess || (short == excess && n % 2 == 0)) then some n
  else if upper then some (n + 1)
  else none

/-- The digits of the shortest decimal from `count` digits on, at most `fuel` more. -/
def shortestFrom (r : Rounding) : Nat → Nat → Decimal
  | 0, count => ⟨(r.gridBelow count).2.2, r.point⟩
  | fuel + 1, count =>
    match r.onGrid? count with
    | some n => if n = Nat.pow 10 count then ⟨1, r.point + 1⟩ else ⟨n, r.point⟩
    | none => shortestFrom r fuel (count + 1)

/-- The shortest decimal that reads back as the value. -/
def shortest (r : Rounding) : Decimal :=
  r.shortestFrom 17 1

end Rounding

/-- A digit sequence without its trailing zeros. -/
def stripZeros (digits : List Char) : List Char :=
  (digits.reverse.dropWhile (· == '0')).reverse

/-- How a decimal is written: positionally when the point falls between three places before and
sixteen places after the first digit, with an exponent of at least two digits otherwise. -/
def Decimal.text (d : Decimal) : String :=
  let ds := stripZeros (Nat.toDigits 10 d.digits)
  let chars :=
    if d.point < -3 ∨ 16 < d.point then
      let e := d.point - 1
      let mantissa := match ds with
        | [] => ['0']
        | [c] => [c]
        | c :: rest => c :: '.' :: rest
      let places := Nat.toDigits 10 e.natAbs
      mantissa ++ 'e' :: (if e < 0 then '-' else '+') ::
        (if places.length < 2 then '0' :: places else places)
    else match d.point with
      | .ofNat p =>
        if p = 0 then '0' :: '.' :: ds
        else if ds.length ≤ p then ds ++ List.replicate (p - ds.length) '0' ++ ['.', '0']
        else ds.take p ++ '.' :: ds.drop p
      | .negSucc p => '0' :: '.' :: List.replicate (p + 1) '0' ++ ds
  String.ofList chars

/-- The text of a value. -/
def Binary64.text : Binary64 → String
  | .nan => "nan"
  | .infinite negative => if negative then "-inf" else "inf"
  | .finite negative m e =>
    let size := if m = 0 then "0.0" else (Rounding.ofFinite m e).shortest.text
    if negative then "-" ++ size else size

end PEInspect.Number
