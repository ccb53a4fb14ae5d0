import DeclDocs.Checked.Basic
import DeclDocs.Decimal.Integer
import DeclDocs.Text.Blank

/-! # Texts, flags and integers

Dumps are written by many hands, and a flag or an integer is read from any value
that can only mean one: a flag from zero or one and from the usual words, an
integer from a flag, from a number without a fractional part and from a text
that writes an integer.
-/
namespace DeclDocs
namespace Checked

/-- Whether an integer fits into a signed machine word of 64 bits. -/
def fitsWord (n : Int) : Bool :=
  -9223372036854775808 ≤ n && n ≤ 9223372036854775807

/-- The integer that a number with a point or an exponent stands for, if it lies
strictly between the two powers of two that bound the machine words.  The least
machine word is one of these powers, and a rounded number may have come to it from
outside. -/
def wordOfFloat? (value : Decimal.Binary64) : Option Int :=
  value.toInt?.filter fun n => fitsWord n && fitsWord (n - 1)

/-- A text. -/
def text : Json → Checked String
  | .str s => .valid s
  | _ => defect .notText

/-! ## Flags -/

/-- The words for false, in lower case. -/
def falseWords : List String := ["0", "off", "f", "false", "n", "no"]

/-- The words for true, in lower case. -/
def trueWords : List String := ["1", "on", "t", "true", "y", "yes"]

/-- The flag that a text writes, in any letter case. -/
def flagOfText (s : String) : Checked Bool :=
  let word := s.toLower
  if word ∈ falseWords then .valid false
  else if word ∈ trueWords then .valid true
  else defect .unreadableFlag

/-- The flag that an integer writes.  Only machine words are looked at. -/
def flagOfInteger (n : Int) : Checked Bool :=
  if n = 0 then .valid false
  else if n = 1 then .valid true
  else if fitsWord n then defect .unreadableFlag
  else defect .notFlag

/-- A flag. -/
def flag : Json → Checked Bool
  | .bool value => .valid value
  | .int n => flagOfInteger n
  | .float value =>
    match wordOfFloat? value with
    | some n => flagOfInteger n
    | none => defect .notFlag
  | .str s => flagOfText s
  | _ => defect .notFlag

/-! ## Integers -/

/-- The integer that a text writes, with white space around it. -/
def integerOfText (text : String) : Checked Int :=
  let trimmed := Text.trimmed text.toList
  if Decimal.opensTooLong trimmed then defect .integerTooLarge
  else
    match Decimal.integerOfText? trimmed with
    | some n => .valid n
    | none => defect .unreadableInteger

/-- The integer that a number with a point or an exponent writes. -/
def integerOfFloat (value : Decimal.Binary64) : Checked Int :=
  match value with
  | .finite .. =>
    match value.toInt?, wordOfFloat? value with
    | some _, some n => .valid n
    | some _, none => defect .integerTooLarge
    | none, _ => defect .fractionalInteger
  | _ => defect .notFinite

/-- An integer. -/
def integer : Json → Checked Int
  | .bool value => .valid (if value then 1 else 0)
  | .int n => .valid n
  | .float value => integerOfFloat value
  | .str s => integerOfText s
  | _ => defect .notInteger

/-- An integer that is not negative. -/
def natural (value : Json) : Checked Nat :=
  match integer value with
  | .valid (.ofNat n) => .valid n
  | .valid (.negSucc _) => defect .negative
  | .invalid issues => .invalid issues

end Checked
end DeclDocs
