/-! # Blank characters

A nest of a layout is worth keeping only when its text can be broken, that is
when it holds a blank character.  The class is the Unicode property
`White_Space` together with the four separators U+001C to U+001F.
-/
namespace DeclDocs
namespace Text

/-- The code points with the property `White_Space`, as inclusive ranges in
ascending order. -/
def whiteSpaceRanges : List (Nat × Nat) :=
  [(0x0009, 0x000D), (0x0020, 0x0020), (0x0085, 0x0085), (0x00A0, 0x00A0), (0x1680, 0x1680),
   (0x2000, 0x200A), (0x2028, 0x2029), (0x202F, 0x202F), (0x205F, 0x205F), (0x3000, 0x3000)]

/-- Whether a character has the property `White_Space`. -/
def isWhiteSpace (c : Char) : Bool :=
  whiteSpaceRanges.any fun range => range.1 ≤ c.toNat && c.toNat ≤ range.2

/-- Whether a character is blank. -/
def isBlank (c : Char) : Bool :=
  isWhiteSpace c || (0x001C ≤ c.toNat && c.toNat ≤ 0x001F)

/-- A text without the characters of a class at its ends. -/
def strip (inClass : Char → Bool) (text : List Char) : List Char :=
  ((text.dropWhile inClass).reverse.dropWhile inClass).reverse

/-- The characters of a text without the white space at its ends. -/
def trimmed (text : List Char) : List Char :=
  strip isWhiteSpace text

/-- The words that a text is made of after `word`, which is kept last character
first.  Blank characters stand between words. -/
def wordsAfter (word : List Char) : List Char → List String
  | [] => if word.isEmpty then [] else [String.ofList word.reverse]
  | c :: rest =>
    if isBlank c then
      if word.isEmpty then wordsAfter [] rest
      else String.ofList word.reverse :: wordsAfter [] rest
    else wordsAfter (c :: word) rest

/-- The words of a text. -/
def words (text : String) : List String :=
  wordsAfter [] text.toList

/-- Whether some character of `text` is blank. -/
def hasBlank (text : String) : Bool :=
  text.toList.any isBlank

theorem hasBlank_append (s t : String) : hasBlank (s ++ t) = (hasBlank s || hasBlank t) := by
  simp [hasBlank]

end Text
end DeclDocs
