import DeclDocs.Decimal.Digits
import DeclDocs.Text.Blank
import DeclDocs.Text.Lines
import DeclDocs.Text.WordCharacter

/-! # Arguments of actions

A tag whose name begins with `@` names an action.  Its argument is the name of what
is called, values between parentheses, both, or a value alone.  Values are numbers,
quoted texts, the constants, and tuples, sets and tables of values.  Square brackets
never occur, because a tag ends at the first of them.
-/
namespace DeclDocs
namespace Styled
namespace Argument

/-- What matters about a value: whether it is a number that may take a sign, or the
first or second part of a complex number, and whether it may be an item of a set
or a key of a table. -/
inductive Role where
  | real
  | imaginary
  | signedReal
  | other
  | collection
  deriving DecidableEq, Repr

/-- Whether a value may be an item of a set or a key of a table. -/
def Role.isKey (role : Role) : Bool :=
  role != .collection

/-! ## Characters -/

/-- Whether a character is a hexadecimal digit of either case. -/
def isHexDigit (c : Char) : Bool :=
  c.isDigit || ('a' ≤ c && c ≤ 'f') || ('A' ≤ c && c ≤ 'F')

/-- The text after what separates values: blanks, line ends with a backslash before
them, and, between parentheses, comments and line ends.  `comment` says whether a
comment has begun. -/
def skip (enclosed comment : Bool) : List Char → List Char
  | [] => []
  | '\\' :: '\n' :: rest =>
    if comment && !enclosed then '\n' :: rest else skip enclosed false rest
  | c :: rest =>
    if c = '\n' then if enclosed then skip enclosed false rest else c :: rest
    else if comment || c = ' ' || c = '\t' || c = '\x0c' then skip enclosed comment rest
    else if c = '#' then skip enclosed true rest
    else c :: rest

/-! ## Numbers -/

/-- The text after a run of digits of some class, with single underscores between
them, if there is a digit. -/
def afterDigits? (isDigit : Char → Bool) : List Char → Option (List Char)
  | [] => none
  | c :: rest =>
    if isDigit c then
      match rest with
      | '_' :: next :: after =>
        if isDigit next then afterDigits? isDigit (next :: after) else some rest
      | next :: after => if isDigit next then afterDigits? isDigit (next :: after) else some rest
      | [] => some []
    else none

/-- The text after an exponent, if there is one. -/
def afterExponent (text : List Char) : List Char :=
  let digits? : List Char → Option (List Char)
    | 'e' :: '+' :: rest | 'e' :: '-' :: rest | 'E' :: '+' :: rest | 'E' :: '-' :: rest
    | 'e' :: rest | 'E' :: rest => afterDigits? Char.isDigit rest
    | _ => none
  (digits? text).getD text

/-- The role of a number and what follows it: the mark `j` makes it imaginary. -/
def marked : List Char → Role × List Char
  | 'j' :: rest | 'J' :: rest => (.imaginary, rest)
  | rest => (.real, rest)

/-- Whether some digits write an integer: only zero begins with a zero. -/
def isInteger (text : List Char) : Bool :=
  let digits := text.filter Char.isDigit
  (digits.head? != some '0' || digits.all (· == '0')) && digits.length ≤ Decimal.digitLimit

/-- A decimal number with its point and exponent. -/
def decimal? (text : List Char) : Option (Role × List Char) :=
  match afterDigits? Char.isDigit text with
  | none =>
    match text with
    | '.' :: rest => (afterDigits? Char.isDigit rest).map fun rest => marked (afterExponent rest)
    | _ => none
  | some ('.' :: rest) =>
    some (marked (afterExponent ((afterDigits? Char.isDigit rest).getD rest)))
  | some rest =>
    match marked (afterExponent rest) with
    | (.real, after) =>
      if after.length = rest.length && !isInteger (text.take (text.length - rest.length)) then none
      else some (.real, after)
    | found => some found

/-- A number. -/
def number? : List Char → Option (Role × List Char)
  | '0' :: mark :: rest =>
    let digits? (isDigit : Char → Bool) : Option (Role × List Char) :=
      let rest := match rest with
        | '_' :: rest => rest
        | rest => rest
      (afterDigits? isDigit rest).map (Role.real, ·)
    if mark = 'x' || mark = 'X' then digits? isHexDigit
    else if mark = 'o' || mark = 'O' then digits? fun c => '0' ≤ c && c ≤ '7'
    else if mark = 'b' || mark = 'B' then digits? fun c => c == '0' || c == '1'
    else decimal? ('0' :: mark :: rest)
  | text => decimal? text

/-! ## Texts -/

/-- How a text is quoted: with one quote or three, with escapes or without, and
whether it consists of bytes. -/
structure Quoting where
  mark : Char
  tripled : Bool
  raw : Bool
  bytes : Bool

/-- The value of some hexadecimal digits. -/
def hexValue (digits : List Char) : Nat :=
  digits.foldl (fun n c => 16 * n + (if c.isDigit then c.toNat - 48 else c.toLower.toNat - 87)) 0

/-- Whether an escape may begin with `c`, which follows a backslash. -/
def isEscape (quoting : Quoting) (c : Char) (rest : List Char) : Bool :=
  let digits (count : Nat) : Bool :=
    (rest.take count).length == count && (rest.take count).all isHexDigit
  if quoting.bytes && 0x80 ≤ c.toNat then false
  else if quoting.raw then true
  else if c = 'x' then digits 2
  else if quoting.bytes then true
  else if c = 'u' then digits 4
  else if c = 'U' then digits 8 && hexValue (rest.take 8) ≤ 0x10FFFF
  else if c = 'N' then
    match rest with
    | '{' :: named =>
      let name := named.takeWhile fun c => c.isAlphanum || c == ' ' || c == '-'
      !name.isEmpty && (named.drop name.length).head? == some '}'
    | _ => false
  else true

/-- The text after the end of a quoted text. -/
def afterQuoted? (quoting : Quoting) : List Char → Option (List Char)
  | [] => none
  | '\\' :: c :: rest => if isEscape quoting c rest then afterQuoted? quoting rest else none
  | c :: rest =>
    if c = quoting.mark then
      if !quoting.tripled then some rest
      else if rest.take 2 = [quoting.mark, quoting.mark] then some (rest.drop 2)
      else afterQuoted? quoting rest
    else if c = '\\' || (c = '\n' && !quoting.tripled) || (quoting.bytes && 0x80 ≤ c.toNat) then
      none
    else afterQuoted? quoting rest

/-- The letters that may stand before a quoted text. -/
def quotingWords : List (List Char) :=
  [[], ['r'], ['u'], ['b'], ['b', 'r'], ['r', 'b']]

/-- A quoted text, whether it consists of bytes, and what follows it. -/
def quoted? (text : List Char) : Option (Bool × List Char) :=
  let letters := text.takeWhile Char.isAlpha
  let word := letters.map Char.toLower
  match text.drop letters.length with
  | [] => none
  | mark :: rest =>
    if (mark = '\'' || mark = '"') && quotingWords.contains word then
      let bytes := word.contains 'b'
      let tripled := rest.take 2 == [mark, mark]
      let body := if tripled then rest.drop 2 else rest
      (afterQuoted? ⟨mark, tripled, word.contains 'r', bytes⟩ body).map (bytes, ·)
    else none

/-! ## Values -/

/-- The names of the constants. -/
def constants : List String := ["None", "True", "False"]

/-! Each of the functions below passes fuel on to the next, and between two calls of
the same one a character is read. -/

mutual

/-- A value with the sign and the second part that it may have. -/
def value? (fuel : Nat) (enclosed : Bool) (text : List Char) : Option (Role × List Char) :=
  match fuel with
  | 0 => none
  | fuel + 1 => do
    let (first, rest) ← match text with
      | '-' :: rest | '+' :: rest => do
        match ← primary? fuel enclosed (skip enclosed false rest) with
        | (.real, rest) => some (.signedReal, rest)
        | (.imaginary, rest) => some (.other, rest)
        | _ => none
      | text => primary? fuel enclosed text
    match skip enclosed false rest with
    | '-' :: rest | '+' :: rest => do
      match first, ← primary? fuel enclosed (skip enclosed false rest) with
      | .real, (.imaginary, rest) | .signedReal, (.imaginary, rest) =>
        some (.other, skip enclosed false rest)
      | _, _ => none
    | rest => some (first, rest)

/-- A value without a sign. -/
def primary? (fuel : Nat) (enclosed : Bool) (text : List Char) : Option (Role × List Char) :=
  match fuel with
  | 0 => none
  | fuel + 1 =>
    match text with
    | '(' :: rest =>
      match skip true false rest with
      | ')' :: rest => some (.other, rest)
      | rest => tuple? fuel none rest
    | '{' :: rest =>
      match skip true false rest with
      | '}' :: rest => some (.collection, rest)
      | rest => collection? fuel none rest
    | '.' :: '.' :: '.' :: rest => some (.other, rest)
    | text =>
      match quoted? text with
      | some (bytes, rest) => moreTexts? fuel enclosed bytes rest
      | none =>
        let name := text.takeWhile Text.isWordCharacter
        let rest := text.drop name.length
        if constants.contains (String.ofList name) then some (.other, rest)
        else if name = ['s', 'e', 't'] then
          match skip enclosed false rest with
          | '(' :: rest =>
            match skip true false rest with
            | ')' :: rest => some (.collection, rest)
            | _ => none
          | _ => none
        else number? text

/-- The quoted texts that follow another one, all of its kind, and what follows them. -/
def moreTexts? (fuel : Nat) (enclosed bytes : Bool) (text : List Char) :
    Option (Role × List Char) :=
  match fuel with
  | 0 => none
  | fuel + 1 =>
    match quoted? (skip enclosed false text) with
    | some (more, rest) => if more = bytes then moreTexts? fuel enclosed bytes rest else none
    | none => some (.other, text)

/-- The items of a tuple from the first or next one on, up to the closing
parenthesis.  `role` is that of the items so far, if there are any.  One item
without a comma is not a tuple but stands for itself. -/
def tuple? (fuel : Nat) (role : Option Role) (text : List Char) : Option (Role × List Char) :=
  match fuel with
  | 0 => none
  | fuel + 1 => do
    let (item, rest) ← value? fuel true text
    let whole := if item.isKey && (role.map Role.isKey).getD true then Role.other else .collection
    match rest with
    | ')' :: rest => some (if role.isNone then item else whole, rest)
    | ',' :: rest =>
      match skip true false rest with
      | ')' :: rest => some (whole, rest)
      | rest => tuple? fuel (some whole) rest
    | _ => none

/-- The items of a set, or of a table, from the first or next one on.  `table` says
which it is, once an item has been read. -/
def collection? (fuel : Nat) (table : Option Bool) (text : List Char) :
    Option (Role × List Char) :=
  match fuel with
  | 0 => none
  | fuel + 1 => do
    let (key, rest) ← value? fuel true text
    let (table, rest) ← match table, rest with
      | some true, ':' :: rest | none, ':' :: rest => do
        let (_, rest) ← value? fuel true (skip true false rest)
        some (true, rest)
      | some true, _ | some false, ':' :: _ => none
      | _, rest => some (false, rest)
    if !key.isKey then none
    else
      match rest with
      | '}' :: rest => some (.collection, rest)
      | ',' :: rest =>
        match skip true false rest with
        | '}' :: rest => some (.collection, rest)
        | rest => collection? fuel (some table) rest
      | _ => none

end

/-- Whether a text is a value, or values with commas after them. -/
def isValues (fuel : Nat) (text : List Char) : Bool :=
  match fuel with
  | 0 => false
  | more + 1 =>
    match value? fuel false text with
    | some (_, ',' :: rest) =>
      let rest := skip false false rest
      (skip true false rest).isEmpty || isValues more rest
    | some (_, rest) => (skip true false rest).isEmpty
    | none => false

/-- The values that a call is given, with their parentheses: none, if the name of
what is called stands alone. -/
def callValues? (text : List Char) : Option (List Char) :=
  let name := text.takeWhile fun c => Text.isWordCharacter c || c == '.'
  match text.drop name.length with
  | [] => some ['(', ')']
  | '(' :: rest =>
    if rest.getLast? = some ')' && !rest.contains '\n' then some ('(' :: rest) else none
  | _ => none

/-- Whether the argument of an action can be read. -/
def isReadable (argument : String) : Bool :=
  let text := Text.strip Text.isBlank argument.toList
  let values := Text.uniformLines ((callValues? text).getD text)
  !values.contains '\x00' && isValues (4 * (values.length + 1)) (skip true false values)

end Argument
end Styled
end DeclDocs
