import DeclDocs.Text.Printable

/-! # Quoted literals

A text inside a complaint is written between quotes, with a backslash before
whatever could be mistaken and with the code point of what could not be seen.
-/
namespace DeclDocs
namespace Text

/-- The lower-case hexadecimal digits of `n`, padded with zeros to `width`. -/
def hexadecimal (width n : Nat) : String :=
  let digits := Nat.toDigits 16 n
  String.ofList (List.replicate (width - digits.length) '0' ++ digits)

/-- The quote a literal is written with: the single one, unless the text has a
single quote and no double one. -/
def quoteMark (text : String) : Char :=
  if text.toList.contains '\'' && !text.toList.contains '"' then '"' else '\''

/-- One character of a literal that is written with the quote `mark`. -/
def escapeInLiteral (mark c : Char) : String :=
  if c = mark || c = '\\' then String.ofList ['\\', c]
  else if c = '\n' then "\\n"
  else if c = '\r' then "\\r"
  else if c = '\t' then "\\t"
  else if isPrintable c then c.toString
  else if c.toNat < 0x100 then "\\x" ++ hexadecimal 2 c.toNat
  else if c.toNat < 0x10000 then "\\u" ++ hexadecimal 4 c.toNat
  else "\\U" ++ hexadecimal 8 c.toNat

/-- The quoted literal of `text`. -/
def quote (text : String) : String :=
  let mark := quoteMark text
  text.toList.foldl (fun written c => written ++ escapeInLiteral mark c) mark.toString
    ++ mark.toString

end Text
end DeclDocs
