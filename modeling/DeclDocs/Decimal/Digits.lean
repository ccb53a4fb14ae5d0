/-! # Decimal digits

Runs of decimal digits and the natural numbers they write.
-/
namespace DeclDocs
namespace Decimal

/-- How many digits an integer may be written with. -/
def digitLimit : Nat := 4300

/-- The number that a run of decimal digits writes. -/
def digitsValue (digits : List Char) : Nat :=
  digits.foldl (fun n c => 10 * n + (c.toNat - 48)) 0

/-- The number of decimal digits of `n`. -/
def digitCount (n : Nat) : Nat :=
  (Nat.toDigits 10 n).length

end Decimal
end DeclDocs
