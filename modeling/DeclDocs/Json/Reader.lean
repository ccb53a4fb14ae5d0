import DeclDocs.Json.Basic

/-! # Reading JSON

The reader takes a text to the value it writes, or to the first complaint about
it with the place the complaint is about.  Beyond standard JSON it accepts
`NaN`, `Infinity` and `-Infinity`; of a repeated key the last value counts.
The caller chooses how deeply arrays and objects may be nested and how many digits
an integer may have: past these limits reading stops at once, whatever the rest of
the text is.
-/
namespace DeclDocs
namespace Json

/-- What is wrong with a text that is not JSON. -/
inductive Complaint where
  | byteOrderMark
  | valueExpected
  | nameExpected
  | colonExpected
  | commaExpected
  | unterminatedString
  | controlCharacter
  | badEscape
  | badUnicodeEscape
  | extraData
  deriving DecidableEq, Repr

/-- The wording of a complaint. -/
def Complaint.message : Complaint → String
  | .byteOrderMark => "Unexpected UTF-8 BOM (decode using utf-8-sig)"
  | .valueExpected => "Expecting value"
  | .nameExpected => "Expecting property name enclosed in double quotes"
  | .colonExpected => "Expecting ':' delimiter"
  | .commaExpected => "Expecting ',' delimiter"
  | .unterminatedString => "Unterminated string starting at"
  | .controlCharacter => "Invalid control character at"
  | .badEscape => "Invalid \\escape"
  | .badUnicodeEscape => "Invalid \\uXXXX escape"
  | .extraData => "Extra data"

/-- A place in a text: the number of characters before it, and the line and
column it lies on, both counted from one. -/
structure Place where
  offset : Nat
  line : Nat
  column : Nat
  deriving DecidableEq, Repr

/-- The place after the first `offset` characters of `text`. -/
def Place.after (text : List Char) (offset : Nat) : Place :=
  let before := text.take offset
  { offset
    line := before.count '\n' + 1
    column := (before.reverse.takeWhile (· != '\n')).length + 1 }

/-- What a text may hold: arrays and objects nested so deeply, and integers with so
many digits. -/
structure Limits where
  nesting : Nat
  digits : Nat
  deriving DecidableEq, Repr

/-- The limits inside an array or object, if there may be one. -/
def Limits.inner? (limits : Limits) : Option Limits :=
  match limits.nesting with
  | 0 => none
  | nesting + 1 => some { limits with nesting }

/-- Why a text was not read. -/
inductive ReadError where
  | malformed (complaint : Complaint) (place : Place)
  | tooDeep
  | tooManyDigits (digits : Nat)
  deriving DecidableEq, Repr

namespace Reader

/-- Why reading stopped.  A complaint carries the number of characters that
stand from its place to the end of the text. -/
inductive Fault where
  | complaint (what : Complaint) (left : Nat)
  | tooDeep
  | tooManyDigits (digits : Nat)

/-- White space between the tokens of a text. -/
def isSpace (c : Char) : Bool :=
  c == ' ' || c == '\t' || c == '\n' || c == '\r'

/-- The text after its leading white space. -/
def skipSpace (text : List Char) : List Char :=
  text.dropWhile isSpace

/-- The text after the given word, if it begins with it. -/
def after? : (word text : List Char) → Option (List Char)
  | [], text => some text
  | w :: word, c :: text => if w = c then after? word text else none
  | _ :: _, [] => none

/-! ## Numbers -/

/-- The longest run of digits that `text` begins with, and what follows it. -/
def digits (text : List Char) : List Char × List Char :=
  (text.takeWhile Char.isDigit, text.dropWhile Char.isDigit)

/-- The digits before the point: a zero on its own, or a run without a leading zero. -/
def wholeDigits : List Char → Option (List Char × List Char)
  | [] => none
  | c :: rest =>
    if c = '0' then some (['0'], rest)
    else if c.isDigit then some (digits (c :: rest))
    else none

/-- The digits after the point.  A point without a digit after it belongs to what follows. -/
def fractionDigits : List Char → List Char × List Char
  | '.' :: rest =>
    let (run, after) := digits rest
    if run.isEmpty then ([], '.' :: rest) else (run, after)
  | text => ([], text)

/-- The sign that may stand before an exponent. -/
def exponentSign : List Char → Bool × List Char
  | '-' :: rest => (true, rest)
  | '+' :: rest => (false, rest)
  | text => (false, text)

/-- The exponent.  A mark without digits after it belongs to what follows. -/
def exponent : List Char → Option Int × List Char
  | [] => (none, [])
  | c :: rest =>
    if c = 'e' || c = 'E' then
      let (negative, unsigned) := exponentSign rest
      let (run, after) := digits unsigned
      let size : Int := Decimal.digitsValue run
      if run.isEmpty then (none, c :: rest) else (some (if negative then -size else size), after)
    else (none, c :: rest)

/-- A number without its sign, or nothing if there is no digit.  The limit is for
integers only. -/
def unsigned (digitLimit : Nat) (negative : Bool) (text : List Char) :
    Except Fault (Option (Json × List Char)) :=
  match wholeDigits text with
  | none => .ok none
  | some (whole, rest) =>
    let (fraction, rest) := fractionDigits rest
    match fraction, exponent rest with
    | [], (none, rest) =>
      let size : Int := Decimal.digitsValue whole
      if digitLimit < whole.length then .error (.tooManyDigits whole.length)
      else .ok (some (.int (if negative then -size else size), rest))
    | fraction, (power, rest) =>
      let written := Decimal.digitsValue (whole ++ fraction)
      let exponent := power.getD 0 - (fraction.length : Int)
      .ok (some (.float (.ofDecimal negative written exponent), rest))

/-- The words that stand for values. -/
def words : List (String × Json) :=
  [("null", .null), ("true", .bool true), ("false", .bool false), ("NaN", .float .nan),
   ("Infinity", .float (.infinite false)), ("-Infinity", .float (.infinite true))]

/-- A value that is neither a string nor a container. -/
def scalar (digitLimit : Nat) (text : List Char) : Except Fault (Json × List Char) := do
  match words.findSome? fun (word, value) => (after? word.toList text).map (value, ·) with
  | some found => return found
  | none =>
    let number ← match text with
      | '-' :: rest => unsigned digitLimit true rest
      | _ => unsigned digitLimit false text
    match number with
    | some found => return found
    | none => throw (.complaint .valueExpected text.length)

/-! ## Strings -/

/-- The character that a one-letter escape stands for. -/
def shortEscape : Char → Option Char
  | '"' => some '"'
  | '\\' => some '\\'
  | '/' => some '/'
  | 'b' => some '\x08'
  | 'f' => some '\x0c'
  | 'n' => some '\n'
  | 'r' => some '\r'
  | 't' => some '\t'
  | _ => none

/-- The value of a hexadecimal digit of either case. -/
def hexValue (c : Char) : Option Nat :=
  if '0' ≤ c && c ≤ '9' then some (c.toNat - 48)
  else if 'a' ≤ c && c ≤ 'f' then some (c.toNat - 87)
  else if 'A' ≤ c && c ≤ 'F' then some (c.toNat - 55)
  else none

/-- The code unit that four hexadecimal digits write. -/
def codeUnit (a b c d : Char) : Option Nat := do
  return (((← hexValue a) * 16 + (← hexValue b)) * 16 + (← hexValue c)) * 16 + (← hexValue d)

/-- Whether a code unit opens a surrogate pair. -/
def isHigh (unit : Nat) : Bool := 0xD800 ≤ unit && unit ≤ 0xDBFF

/-- Whether a code unit closes a surrogate pair. -/
def isLow (unit : Nat) : Bool := 0xDC00 ≤ unit && unit ≤ 0xDFFF

/-- The character of a unit that stands alone.  One half of a surrogate pair is
no character and reads as the replacement character. -/
def loneUnit (unit : Nat) : Char :=
  if isHigh unit || isLow unit then '\ufffd' else Char.ofNat unit

/-- The characters that some units write: two units that make up a surrogate
pair are one character. -/
def joinUnits : List Nat → List Char
  | [] => []
  | [unit] => [loneUnit unit]
  | high :: low :: rest =>
    if isHigh high && isLow low then
      Char.ofNat (0x10000 + (high - 0xD800) * 0x400 + (low - 0xDC00)) :: joinUnits rest
    else loneUnit high :: joinUnits (low :: rest)

/-- The rest of a string after its opening quote: the text up to the closing
quote, and what follows.  `whole` is the text from the opening quote on, `read`
the units so far, last first.  An escape by code unit is complete only when some
character follows it. -/
def stringBody (whole : List Char) (read : List Nat) :
    List Char → Except Fault (String × List Char)
  | [] => .error (.complaint .unterminatedString whole.length)
  | '"' :: rest => .ok (String.ofList (joinUnits read.reverse), rest)
  | '\\' :: 'u' :: a :: b :: c :: d :: next :: rest =>
    match codeUnit a b c d with
    | none => .error (.complaint .badUnicodeEscape (rest.length + 6))
    | some unit => stringBody whole (unit :: read) (next :: rest)
  | '\\' :: 'u' :: rest => .error (.complaint .badUnicodeEscape (rest.length + 1))
  | '\\' :: [] => .error (.complaint .unterminatedString whole.length)
  | '\\' :: c :: rest =>
    match shortEscape c with
    | some escaped => stringBody whole (escaped.toNat :: read) rest
    | none => .error (.complaint .badEscape (rest.length + 2))
  | c :: rest =>
    if c.toNat < 0x20 then .error (.complaint .controlCharacter (rest.length + 1))
    else stringBody whole (c.toNat :: read) rest

/-! ## Values

Of the three functions below, `value` passes a character before it calls one of
the others, and these call `value` where they stand and themselves further on.
So no character is met by more than two calls, and fuel of twice the length of
the text, and two more, never runs out. -/

mutual

/-- One value within limits. -/
def value (fuel : Nat) (limits : Limits) (text : List Char) : Except Fault (Json × List Char) :=
  match fuel with
  | 0 => .error (.complaint .valueExpected text.length)
  | fuel + 1 =>
    match text with
    | '"' :: rest => do
      let (body, rest) ← stringBody text [] rest
      return (.str body, rest)
    | '[' :: rest =>
      match limits.inner? with
      | none => .error .tooDeep
      | some limits =>
        match skipSpace rest with
        | ']' :: rest => .ok (.arr [], rest)
        | rest => items fuel limits [] rest
    | '{' :: rest =>
      match limits.inner? with
      | none => .error .tooDeep
      | some limits =>
        match skipSpace rest with
        | '}' :: rest => .ok (.obj [], rest)
        | rest => members fuel limits [] rest
    | text => scalar limits.digits text

/-- The items of an array from its first or next item on; `read` holds the
items so far, last first. -/
def items (fuel : Nat) (limits : Limits) (read : List Json) (text : List Char) :
    Except Fault (Json × List Char) :=
  match fuel with
  | 0 => .error (.complaint .valueExpected text.length)
  | fuel + 1 => do
    let (item, rest) ← value fuel limits text
    match skipSpace rest with
    | ']' :: rest => .ok (.arr (item :: read).reverse, rest)
    | ',' :: rest => items fuel limits (item :: read) (skipSpace rest)
    | rest => .error (.complaint .commaExpected rest.length)

/-- The members of an object from its first or next key on; `read` holds the
members so far, last first. -/
def members (fuel : Nat) (limits : Limits) (read : List (String × Json)) (text : List Char) :
    Except Fault (Json × List Char) :=
  match fuel with
  | 0 => .error (.complaint .nameExpected text.length)
  | fuel + 1 =>
    match text with
    | '"' :: rest => do
      let (key, rest) ← stringBody text [] rest
      match skipSpace rest with
      | ':' :: rest =>
        let (found, rest) ← value fuel limits (skipSpace rest)
        match skipSpace rest with
        | '}' :: rest => .ok (.obj (Members.ofPairs ((key, found) :: read).reverse), rest)
        | ',' :: rest => members fuel limits ((key, found) :: read) (skipSpace rest)
        | rest => .error (.complaint .commaExpected rest.length)
      | rest => .error (.complaint .colonExpected rest.length)
    | text => .error (.complaint .nameExpected text.length)

end

/-- A value with white space around it, and nothing else. -/
def document (limits : Limits) (text : List Char) : Except Fault Json := do
  if text.head? = some '\ufeff' then .error (.complaint .byteOrderMark text.length)
  let (found, rest) ← value (2 * (text.length + 1)) limits (skipSpace text)
  match skipSpace rest with
  | [] => .ok found
  | rest => .error (.complaint .extraData rest.length)

end Reader

/-- Reads the JSON value that `text` writes, within limits. -/
def parse (limits : Limits) (text : String) : Except ReadError Json :=
  let characters := text.toList
  match Reader.document limits characters with
  | .ok value => .ok value
  | .error .tooDeep => .error .tooDeep
  | .error (.tooManyDigits digits) => .error (.tooManyDigits digits)
  | .error (.complaint what left) =>
    .error (.malformed what (.after characters (characters.length - left)))

end Json
end DeclDocs
