/-! # Abridged texts

A long text inside a report is cut down to its beginning and its end.  Lengths are
counted in bytes of UTF-8, and no character is cut in two.
-/
namespace DeclDocs
namespace Text

/-- The characters that a text begins with, as many as fit into `room` bytes. -/
def fitting (room : Nat) : List Char → List Char
  | [] => []
  | c :: rest => if c.utf8Size ≤ room then c :: fitting (room - c.utf8Size) rest else []

/-- A text of at most 50 bytes as it is, and of a longer one 25 bytes from its
beginning and 24 from its end. -/
def abridged (text : String) : String :=
  if text.utf8ByteSize ≤ 50 then text
  else
    String.ofList (fitting 25 text.toList) ++ "..." ++
      String.ofList (fitting 24 text.toList.reverse).reverse

end Text
end DeclDocs
