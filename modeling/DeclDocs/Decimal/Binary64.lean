import DeclDocs.Decimal.Digits

/-! # Binary floating-point numbers

A number written with a point or an exponent is read as a double: the nearest
number of the form `m · 2 ^ q` with `m < 2 ^ 53`, a tie going to the even `m`.
All arithmetic here is exact and on natural numbers, so that what a number is
read as, and how it is written back, can be computed inside a proof.
-/
namespace DeclDocs
namespace Decimal

/-- A double: not a number, an infinity, or a finite value with its sign.  A
finite value is kept in lowest exponent form: `mantissa` has 53 bits unless
`exponent` is the least one. -/
inductive Binary64 where
  | nan
  | infinite (negative : Bool)
  | finite (negative : Bool) (mantissa : Nat) (exponent : Int)
  deriving DecidableEq, Repr

/-- `numerator / denominator` rounded to the nearest natural number, a tie to the
even one. -/
def roundHalfEven (numerator denominator : Nat) : Nat :=
  let quotient := numerator / denominator
  let twice := 2 * (numerator % denominator)
  if twice < denominator then quotient
  else if denominator < twice then quotient + 1
  else quotient + quotient % 2

/-- The ratio `numerator / denominator` multiplied by `base ^ exponent`. -/
def scale (base : Nat) (exponent : Int) (numerator denominator : Nat) : Nat × Nat :=
  if 0 ≤ exponent then (numerator * base.pow exponent.toNat, denominator)
  else (numerator, denominator * base.pow (-exponent).toNat)

namespace Binary64

/-- The least exponent of two of a double. -/
def leastExponent : Int := -1074

/-- The greatest exponent of two of a double. -/
def greatestExponent : Int := 971

/-- The zero of either sign. -/
def zero (negative : Bool) : Binary64 :=
  .finite negative 0 leastExponent

/-- The greatest `k` with `2 ^ k ≤ numerator / denominator`, for positive numbers. -/
def floorLog2 (numerator denominator : Nat) : Int :=
  let guess : Int := (Nat.log2 numerator : Int) - (Nat.log2 denominator : Int)
  let (low, high) := scale 2 guess denominator 1
  if low ≤ numerator * high then guess else guess - 1

/-- The double nearest to the positive ratio `numerator / denominator`. -/
def ofRatio (negative : Bool) (numerator denominator : Nat) : Binary64 :=
  let exponent := max leastExponent (floorLog2 numerator denominator - 52)
  let (n, d) := scale 2 (-exponent) numerator denominator
  let mantissa := roundHalfEven n d
  let (mantissa, exponent) :=
    if mantissa = Nat.pow 2 53 then (Nat.pow 2 52, exponent + 1) else (mantissa, exponent)
  if greatestExponent < exponent then .infinite negative else .finite negative mantissa exponent

/-- The double nearest to `± digits · 10 ^ exponent`.  Numbers far outside the
range of doubles are settled by their number of digits alone. -/
def ofDecimal (negative : Bool) (digits : Nat) (exponent : Int) : Binary64 :=
  let magnitude := (digitCount digits : Int) + exponent
  if digits = 0 || magnitude < -330 then zero negative
  else if 310 < magnitude then .infinite negative
  else
    let (n, d) := scale 10 exponent digits 1
    ofRatio negative n d

/-- The integer a double is equal to, if it is finite and has no fractional part. -/
def toInt? : Binary64 → Option Int
  | .finite negative mantissa exponent =>
    let (n, d) := scale 2 exponent mantissa 1
    if n % d = 0 then some (if negative then -((n / d : Nat) : Int) else ((n / d : Nat) : Int))
    else none
  | _ => none

end Binary64
end Decimal
end DeclDocs
