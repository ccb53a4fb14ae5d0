import DeclDocs.Decimal.Digits

/-! # Integers in texts

An integer is written plainly as an optional minus sign and digits without a
leading zero.  People write it more freely: with a plus sign, with leading zeros,
with single underscores between the digits, and with a point and zeros after
them.  Such a text is first brought into the plain form.  Leading zeros may be
followed by underscores and by the minus sign, since both come to stand first when
the zeros are gone.
-/
namespace DeclDocs
namespace Decimal

/-- The natural number that a text writes plainly. -/
def plainNatural? (text : List Char) : Option Nat :=
  if text.isEmpty || !text.all Char.isDigit then none
  else if text.head? = some '0' && text.length ≠ 1 then none
  else some (digitsValue text)

/-- The integer that a text writes plainly. -/
def plainInteger? : List Char → Option Int
  | '-' :: digits => (plainNatural? digits).map fun n => -(n : Int)
  | digits => (plainNatural? digits).map Int.ofNat

/-- Whether a text begins with an integer that is too long to be read, whatever
follows it.  The minus sign counts. -/
def opensTooLong (text : List Char) : Bool :=
  let unsigned := if text.head? = some '-' then text.tail else text
  let run := unsigned.takeWhile Char.isDigit
  run.head? != some '0' && digitLimit < (text.length - unsigned.length) + run.length

/-- What is left of a text after a zero, which stands for the whole when nothing
is left, and for the digit before a point. -/
def afterZero (zero : Char) : List Char → Option (List Char)
  | [] => some [zero]
  | c :: rest =>
    if c = '0' || c = '_' then afterZero c rest
    else if c = '-' || c.isDigit then some (c :: rest)
    else if c = '.' then some (zero :: '.' :: rest)
    else none

/-- A text without its leading zeros. -/
def withoutLeadingZeros : List Char → Option (List Char)
  | [] => none
  | c :: rest =>
    if c = '0' then afterZero c rest
    else if c = '-' || c.isDigit then some (c :: rest)
    else none

/-- The part of a text before a point that only zeros follow, or all of the text
if there is no point. -/
def beforeZeros (text : List Char) : Option (List Char) :=
  let whole := text.takeWhile (· != '.')
  match text.drop whole.length with
  | [] => some whole
  | _ :: zeros => if !zeros.isEmpty && zeros.all (· == '0') then some whole else none

/-- A text without its underscores, each of which must stand alone between two
other characters. -/
def ungrouped (text : List Char) : Option (List Char) :=
  if text.head? = some '_' || text.getLast? = some '_' ||
      (text.zip text.tail).any (· == ('_', '_')) then none
  else some (text.filter (· != '_'))

/-- The plain form of a text without a sign in front. -/
def plainForm? (text : List Char) : Option (List Char) := do
  ungrouped (← beforeZeros (← withoutLeadingZeros text))

/-- The integer that a text writes.  An integer whose plain form is too long is
not read. -/
def integerOfText? (text : List Char) : Option Int :=
  let plain := match text with
    | '+' :: '-' :: _ => none
    | '+' :: rest => plainForm? rest
    | '-' :: rest => (plainForm? rest).map ('-' :: ·)
    | rest => plainForm? rest
  match plain with
  | some plain => if plain.length ≤ digitLimit then plainInteger? plain else none
  | none => none

end Decimal
end DeclDocs
