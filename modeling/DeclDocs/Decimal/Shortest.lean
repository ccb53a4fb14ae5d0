import DeclDocs.Decimal.Binary64

/-! # The shortest decimal of a double

A double is written with the fewest significant digits that read back as the
same double; of several such decimals the nearest one is taken, and of two
equally near ones the even one.  The search is over the grids of 1, 2, … 17
significant digits: on each grid only the two neighbours of the value can read
back if anything does, and the first grid with a hit wins.
-/
namespace DeclDocs
namespace Decimal

/-- How a decimal is laid out: positionally while the exponent of its first digit
lies in `[lowest, highest]`, otherwise with a mark and a signed exponent of at
least `exponentDigits` digits. -/
structure Style where
  lowest : Int
  highest : Int
  exponentDigits : Nat

/-- Numbers in messages and documents are positional from `0.0001` up to below
`10 ^ 16`, and their exponents have at least two digits. -/
def Style.document : Style := ⟨-4, 15, 2⟩

/-- The greatest `k` with `10 ^ k ≤ numerator / denominator`, for positive numbers. -/
def floorLog10 (numerator denominator : Nat) : Int :=
  if denominator ≤ numerator then (digitCount (numerator / denominator) : Int) - 1
  else -(digitCount ((denominator + numerator - 1) / numerator - 1) : Int)

/-- Of the neighbours of `numerator / denominator` on the grid of multiples of
`10 ^ exponent` that satisfy `hit`, the nearest one. -/
def nearestOnGrid (hit : Nat → Bool) (numerator denominator : Nat) (exponent : Int) : Option Nat :=
  let (n, d) := scale 10 (-exponent) numerator denominator
  let low := n / d
  match hit low, hit (low + 1) with
  | true, true => some (roundHalfEven n d)
  | true, false => some low
  | false, true => some (low + 1)
  | false, false => none

/-- The first of the grids of `digits`, `digits + 1`, … significant digits, at
most `grids` of them, that has a hit. -/
def firstGrid (hit : Nat → Int → Bool) (numerator denominator : Nat) (leading : Int) :
    (digits grids : Nat) → Option (Nat × Int)
  | _, 0 => none
  | digits, grids + 1 =>
    let exponent := leading - (digits : Int) + 1
    match nearestOnGrid (hit · exponent) numerator denominator exponent with
    | some found => some (found, exponent)
    | none => firstGrid hit numerator denominator leading (digits + 1) grids

/-- The shortest decimal `digits · 10 ^ exponent` that reads back as the finite
double of positive `mantissa`. -/
def shortest (mantissa : Nat) (exponent : Int) : Nat × Int :=
  let value := Binary64.finite false mantissa exponent
  let (n, d) := scale 2 exponent mantissa 1
  let reads (digits : Nat) (power : Int) : Bool := Binary64.ofDecimal false digits power = value
  (firstGrid reads n d (floorLog10 n d) 1 17).getD (0, 0)

/-- The digits of a decimal laid out in a style; the value is
`digits · 10 ^ exponent`. -/
def Style.layOut (style : Style) (digits : Nat) (exponent : Int) : String :=
  let all := Nat.toDigits 10 digits
  let kept := (all.reverse.dropWhile (· == '0')).reverse
  let leading : Int := (all.length : Int) + exponent - 1
  let zeros (n : Int) : List Char := List.replicate n.toNat '0'
  if leading < style.lowest || style.highest < leading then
    let fraction := if kept.length ≤ 1 then [] else '.' :: kept.drop 1
    let size := Nat.toDigits 10 leading.natAbs
    let sign := if leading < 0 then '-' else '+'
    String.ofList (kept.take 1 ++ fraction ++ 'e' :: sign ::
      (List.replicate (style.exponentDigits - size.length) '0' ++ size))
  else if leading < 0 then
    String.ofList ('0' :: '.' :: zeros (-leading - 1) ++ kept)
  else
    let whole := kept.take (leading.toNat + 1)
    let fraction := kept.drop (leading.toNat + 1)
    String.ofList (whole ++ zeros (leading + 1 - (whole.length : Int)) ++ '.' ::
      (if fraction.isEmpty then ['0'] else fraction))

/-- The text of a double in a style. -/
def Style.text (style : Style) : Binary64 → String
  | .nan => "nan"
  | .infinite negative => (if negative then "-" else "") ++ "inf"
  | .finite negative mantissa exponent =>
    (if negative then "-" else "") ++
      if mantissa = 0 then "0.0"
      else
        let (digits, power) := shortest mantissa exponent
        style.layOut digits power

end Decimal
end DeclDocs
