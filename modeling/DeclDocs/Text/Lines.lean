/-! # Line ends

A file may end its lines with a line feed, a carriage return or both.  Once read,
every line ends with a line feed alone.
-/
namespace DeclDocs
namespace Text

/-- Appends a text with uniform line ends to what has been read, last character
first. -/
def uniformOnto (read : List Char) : List Char → List Char
  | [] => read.reverse
  | '\r' :: '\n' :: rest => uniformOnto ('\n' :: read) rest
  | '\r' :: rest => uniformOnto ('\n' :: read) rest
  | c :: rest => uniformOnto (c :: read) rest

/-- A text whose lines all end with a line feed. -/
def uniformLines (text : List Char) : List Char :=
  uniformOnto [] text

theorem uniformOnto_of_not_mem (read : List Char) {text : List Char} (h : '\r' ∉ text) :
    uniformOnto read text = read.reverse ++ text := by
  fun_induction uniformOnto read text with
  | case1 read => exact (List.append_nil _).symm
  | case2 read rest ih => exact absurd List.mem_cons_self h
  | case3 read rest _ ih => exact absurd List.mem_cons_self h
  | case4 read c rest _ _ ih =>
    rw [ih fun hmem => h (List.mem_cons_of_mem c hmem), List.reverse_cons, List.append_assoc,
      List.singleton_append]

theorem uniformLines_eq_self {text : List Char} (h : '\r' ∉ text) : uniformLines text = text :=
  uniformOnto_of_not_mem [] h

end Text
end DeclDocs
