/-! # Kinds of declarations

The host names the kind of a declaration with a word, and a document shows it by
a short tag.
-/
namespace DeclDocs

/-- The kind of a declaration. -/
inductive Kind where
  | definition
  | proposition
  | constant
  | postulate
  deriving DecidableEq, Repr

namespace Kind

/-- The kind that a word of the host names. -/
def ofWord? : String → Option Kind
  | "definition" => some .definition
  | "theorem" => some .proposition
  | "constant" => some .constant
  | "axiom" => some .postulate
  | _ => none

/-- The word of the host for a kind. -/
def word : Kind → String
  | .definition => "definition"
  | .proposition => "theorem"
  | .constant => "constant"
  | .postulate => "axiom"

/-- All kinds. -/
def all : List Kind := [.definition, .proposition, .constant, .postulate]

@[simp] theorem ofWord?_word (kind : Kind) : ofWord? kind.word = some kind := by
  cases kind <;> rfl

/-- The tag of a kind in a document. -/
def tag : Kind → String
  | .definition => "def"
  | .proposition => "thm"
  | .constant => "cnst"
  | .postulate => "ax"

end Kind
end DeclDocs
