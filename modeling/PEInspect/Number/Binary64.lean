/-!
# Double-precision numbers

The values of the 64-bit binary floating-point format as data: a number that is not one, the two
infinities, and finite values `± significand · 2 ^ exponent` with 53 bits of significand and an
exponent of at least -1074. Decimal input is rounded to the nearest value, a tie to the even
significand.
-/

namespace PEInspect.Number

/-- A double-precision value. A finite one is kept in lowest form: its exponent is -1074 or its
significand has all 53 bits. -/
inductive Binary64 where
  | nan
  | infinite (negative : Bool)
  | finite (negative : Bool) (significand : Nat) (exponent : Int)
  deriving Repr, DecidableEq, Inhabited

namespace Binary64

/-- The least exponent of a finite value. -/
def minExponent : Int := -1074

/-- The greatest exponent of a finite value. -/
def maxExponent : Int := 971

/-- Zero with a sign. -/
def zero (negative : Bool) : Binary64 :=
  .finite negative 0 minExponent

/-- Both zeros are zero. -/
def isZero : Binary64 → Bool
  | .finite _ 0 _ => true
  | _ => false

/-- The quotient rounded to the nearest whole number, a tie to the even one. -/
def roundDiv (num den : Nat) : Nat :=
  let q := num / den
  let r := num % den
  if 2 * r < den then q
  else if den < 2 * r then q + 1
  else q + q % 2

/-- The numerator and denominator of `num / den · 2 ^ (-exponent)`. -/
def scaleDown (num den : Nat) (exponent : Int) : Nat × Nat :=
  match exponent with
  | .ofNat e => (num, den * Nat.pow 2 e)
  | .negSucc e => (num * Nat.pow 2 (e + 1), den)

/-- The exponent at which the positive quotient `num / den` has a significand of 53 bits, or the
least one. -/
def exponentOf (num den : Nat) : Int :=
  let guess : Int := (Nat.log2 num : Int) - (Nat.log2 den : Int) - 52
  let (n, d) := scaleDown num den guess
  let exact := if n < Nat.pow 2 52 * d then guess - 1 else guess
  max exact minExponent

/-- The value nearest to a positive quotient. -/
def ofQuotient (negative : Bool) (num den : Nat) : Binary64 :=
  let e := exponentOf num den
  let (n, d) := scaleDown num den e
  let m := roundDiv n d
  let (m, e) := if m = Nat.pow 2 53 then (Nat.pow 2 52, e + 1) else (m, e)
  if maxExponent < e then .infinite negative else .finite negative m e

/-- How many decimal digits a number has; zero has none. -/
def decimalLength (n : Nat) : Nat :=
  if n = 0 then 0 else (Nat.toDigits 10 n).length

/-- The value nearest to `digits · 10 ^ exponent`. Magnitudes that are certain to overflow or to
vanish are settled by their length alone. -/
def ofDecimal (negative : Bool) (digits : Nat) (exponent : Int) : Binary64 :=
  if digits = 0 then zero negative
  else
    let size : Int := (decimalLength digits : Int) + exponent
    if 310 < size then .infinite negative
    else if size < -330 then zero negative
    else match exponent with
      | .ofNat e => ofQuotient negative (digits * Nat.pow 10 e) 1
      | .negSucc e => ofQuotient negative digits (Nat.pow 10 (e + 1))

/-- The whole part of a finite value. -/
def truncate? : Binary64 → Option Int
  | .finite negative m e =>
    let size : Nat := match e with
      | .ofNat e => m * Nat.pow 2 e
      | .negSucc e => m / Nat.pow 2 (e + 1)
    some (if negative then -(size : Int) else (size : Int))
  | _ => none

end Binary64

end PEInspect.Number
