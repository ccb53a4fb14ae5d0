import DeclDocs.Decimal.Shortest
import DeclDocs.Json.Basic

/-! # JSON text

The text of a value on one line: a comma and a space between items, a colon and
a space after keys, members in their order.  In a string only the quote, the
backslash and the control characters below U+0020 are escaped, so that the text
of a value never holds a line break.
-/
namespace DeclDocs
namespace Json

/-- The lower-case hexadecimal digit of `n`, for `n < 16`. -/
def hexDigit (n : Nat) : Char :=
  if n < 10 then Char.ofNat (48 + n) else Char.ofNat (87 + n)

/-- One character inside a JSON string. -/
def escape (c : Char) : List Char :=
  if c = '"' then ['\\', '"']
  else if c = '\\' then ['\\', '\\']
  else if c = '\n' then ['\\', 'n']
  else if c = '\r' then ['\\', 'r']
  else if c = '\t' then ['\\', 't']
  else if c = '\x08' then ['\\', 'b']
  else if c = '\x0c' then ['\\', 'f']
  else if c.toNat < 0x20 then
    ['\\', 'u', '0', '0', hexDigit (c.toNat / 16), hexDigit (c.toNat % 16)]
  else [c]

/-- The text of a JSON string. -/
def stringText (text : String) : String :=
  "\"" ++ String.ofList (text.toList.flatMap escape) ++ "\""

/-- The text of a number with a point or an exponent. -/
def floatText : Decimal.Binary64 → String
  | .nan => "NaN"
  | .infinite negative => (if negative then "-" else "") ++ "Infinity"
  | value => Decimal.Style.document.text value

mutual

/-- The text of a JSON value. -/
def render : Json → String
  | .null => "null"
  | .bool true => "true"
  | .bool false => "false"
  | .int value => toString value
  | .float value => floatText value
  | .str text => stringText text
  | .arr items => "[" ++ renderItems "" items ++ "]"
  | .obj members => "\x7b" ++ renderMembers "" members ++ "\x7d"

/-- The items of an array, each after the separator that the one before it asks for. -/
def renderItems (separator : String) : List Json → String
  | [] => ""
  | item :: rest => separator ++ render item ++ renderItems ", " rest

/-- The members of an object, each after the separator that the one before it asks for. -/
def renderMembers (separator : String) : List (String × Json) → String
  | [] => ""
  | (key, value) :: rest =>
    separator ++ stringText key ++ ": " ++ render value ++ renderMembers ", " rest

end

end Json
end DeclDocs
