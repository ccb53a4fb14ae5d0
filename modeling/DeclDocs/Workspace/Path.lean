/-! # Paths

A path is kept in normal form: without empty parts and without parts that stand
for the directory itself.  A part `..` is kept, because where it leads depends on
what is there.
-/
namespace DeclDocs

/-- A path in normal form: how many slashes it begins with (exactly two are
kept apart from one), and its parts. -/
structure Path where
  slashes : Nat
  parts : List String
  deriving DecidableEq, Repr

namespace Path

/-- The pieces of a text between slashes. -/
def pieces : List Char → List (List Char)
  | [] => [[]]
  | c :: rest =>
    match pieces rest with
    | [] => [[c]]
    | piece :: others => if c = '/' then [] :: piece :: others else (c :: piece) :: others

/-- The path that a text writes. -/
def ofString (text : String) : Path :=
  let leading := (text.toList.takeWhile (· == '/')).length
  { slashes := if leading ≤ 2 then leading else 1
    parts := (pieces text.toList).filterMap fun piece =>
      if piece = [] || piece = ['.'] then none else some (String.ofList piece) }

/-- The text of a path.  The path without parts is the directory itself. -/
def text (path : Path) : String :=
  if path.slashes = 0 && path.parts.isEmpty then "."
  else String.ofList (List.replicate path.slashes '/') ++ String.intercalate "/" path.parts

/-- How many bytes the text of a path may have. -/
def limit : Nat := 4095

/-- How many bytes one part of a path may have. -/
def partLimit : Nat := 255

/-- Whether the null character occurs in a path. -/
def hasNull (path : Path) : Bool :=
  path.parts.any fun part => part.toList.contains '\x00'

end Path
end DeclDocs
