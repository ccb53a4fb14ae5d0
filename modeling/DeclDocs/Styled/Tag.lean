/-! # Tags

A tag stands in square brackets inside a text and begins with a lower-case letter
or with one of the signs `#`, `/` and `@`.  What follows an equals sign is the
argument of the tag.  An odd number of backslashes before the bracket takes its
meaning away; of all backslashes before a bracket half are shown.
-/
namespace DeclDocs
namespace Styled

/-- A tag: its name, and what follows the equals sign, if there is one. -/
structure Tag where
  name : String
  argument : Option String
  deriving DecidableEq, Repr

/-- A piece of a text. -/
inductive Piece where
  | text (shown : List Char)
  | tag (tag : Tag)
  deriving DecidableEq, Repr

namespace Tag

/-- Whether a tag may begin with a character. -/
def isFirst (c : Char) : Bool :=
  ('a' ≤ c && c ≤ 'z') || c == '#' || c == '/' || c == '@'

/-- Whether a character may stand inside a tag. -/
def isInner (c : Char) : Bool :=
  c != '[' && c != ']'

/-- The text of the tag that a text after an opening bracket begins with, up to the
closing bracket. -/
def body? : List Char → Option (List Char)
  | [] => none
  | c :: rest =>
    if isFirst c && (rest.dropWhile isInner).head? == some ']' then
      some (c :: rest.takeWhile isInner)
    else none

/-- The tag with the given text. -/
def ofBody (body : List Char) : Tag :=
  let name := body.takeWhile (· != '=')
  { name := String.ofList name
    argument :=
      match body.drop name.length with
      | [] => none
      | _ :: argument => some (String.ofList argument) }

end Tag

/-- Some characters, if there are any, before other pieces. -/
def Piece.before (characters : List Char) (pieces : List Piece) : List Piece :=
  if characters.isEmpty then pieces else .text characters :: pieces

/-- The pieces of a text of which `skipped` characters belong to a tag that has been
read, and before the rest of which so many backslashes stand. -/
def piecesAfter (backslashes skipped : Nat) : List Char → List Piece
  | [] => Piece.before (List.replicate backslashes '\\') []
  | c :: rest =>
    match skipped with
    | skipped + 1 => piecesAfter 0 skipped rest
    | 0 =>
      if c = '\\' then piecesAfter (backslashes + 1) 0 rest
      else if c = '[' then
        match Tag.body? rest with
        | some body =>
          let piece :=
            if backslashes % 2 = 1 then .text ('[' :: body ++ [']']) else .tag (.ofBody body)
          Piece.before (List.replicate (backslashes / 2) '\\')
            (piece :: piecesAfter 0 (body.length + 1) rest)
        | none => .text (List.replicate (backslashes - 1) '\\' ++ ['[']) :: piecesAfter 0 0 rest
      else .text (List.replicate backslashes '\\' ++ [c]) :: piecesAfter 0 0 rest

/-- The pieces of a text: its tags, and what is shown between them. -/
def pieces (text : String) : List Piece :=
  piecesAfter 0 0 text.toList

end Styled
end DeclDocs
