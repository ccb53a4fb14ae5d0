import DeclDocs.Styled.Argument
import DeclDocs.Styled.Style
import DeclDocs.Styled.Tag

/-! # Styled texts

A text is shown without its tags.  A tag switches a style on, and a closing tag
switches it off: the innermost one, or the innermost of the style that it names.
A closing tag that closes nothing makes the whole text a faulty one, which is not
shown at all; a tag that is never closed does no harm.
-/
namespace DeclDocs
namespace Styled

/-- Why a text is not shown. -/
inductive Fault where
  | nothingToClose
  | notOpen (name : String)
  | unreadableArgument (argument : String)
  | unreadablePart
  deriving DecidableEq, Repr

/-- The wording of a fault. -/
def Fault.message : Fault → String
  | .nothingToClose => "closing tag '[/]' has nothing to close"
  | .notOpen name => "closing tag '[/" ++ name ++ "]' doesn't match any open tag"
  | .unreadableArgument argument => "error parsing " ++ argument
  | .unreadablePart => "a color has an unreadable part"

/-- A tag that has been opened: the normal form of its name, its argument, and how
many characters could be seen before it. -/
structure OpenTag where
  name : String
  argument : Option String
  start : Nat
  deriving DecidableEq, Repr

namespace OpenTag

/-- Whether the tag names an action. -/
def isAction (tag : OpenTag) : Bool :=
  tag.name.toList.head? == some '@'

/-- The description of the style of a tag. -/
def description (tag : OpenTag) : String :=
  match tag.argument with
  | some argument => tag.name ++ " " ++ argument
  | none => tag.name

/-- Whether a color in the style of the tag cannot be read. -/
def isBroken (tag : OpenTag) : Bool :=
  match Style.ofText tag.description with
  | .error .unreadablePart => true
  | _ => false

/-- Whether the argument of an action can be read.  There may be none. -/
def isReadable (tag : OpenTag) : Bool :=
  match tag.argument with
  | some argument => argument.isEmpty || Argument.isReadable argument
  | none => true

end OpenTag

/-- How far a text has been shown: what is shown, last character first, and how many
of these characters can be seen, the tags that are open, innermost first, and
whether a broken style has been closed, with something or with nothing in it. -/
structure Progress where
  shown : List Char := []
  visible : Nat := 0
  opened : List OpenTag := []
  broken : Bool := false
  idlyBroken : Bool := false

namespace Progress

/-- Whether a character can be seen. -/
def isVisible (c : Char) : Bool :=
  c ∉ ['\n', '\x07', '\x08', '\x0b', '\x0c', '\r']

/-- Shows some characters. -/
def put (progress : Progress) (characters : List Char) : Progress :=
  { progress with
    shown := characters.reverse ++ progress.shown
    visible := progress.visible + characters.countP isVisible }

/-- Notes whether the style of a tag that ends here is broken. -/
def finish (progress : Progress) (tag : OpenTag) : Progress :=
  if !tag.isBroken then progress
  else if tag.start < progress.visible then { progress with broken := true }
  else { progress with idlyBroken := true }

/-- Closes a tag, which leaves the others open. -/
def close (progress : Progress) (tag : OpenTag) (others : List OpenTag) : Except Fault Progress :=
  let rest := { progress with opened := others }
  if !tag.isAction then .ok (rest.finish tag)
  else if tag.isReadable then .ok rest
  else .error (.unreadableArgument (tag.argument.getD ""))

/-- The normal form of the name of a tag. -/
def normalName (name : String) : Except Fault String :=
  (Style.normalForm name).mapError fun _ => .unreadablePart

/-- Closes the tag that a name after a slash asks for. -/
def closeNamed (progress : Progress) (name : List Char) : Except Fault Progress := do
  if name.isEmpty then
    match progress.opened with
    | tag :: others => progress.close tag others
    | [] => throw .nothingToClose
  else
    let name ← normalName (String.ofList name)
    match progress.opened.find? (·.name == name) with
    | some tag => progress.close tag (progress.opened.eraseP (·.name == name))
    | none => throw (.notOpen name)

/-- Shows one piece of a text. -/
def step (progress : Progress) : Piece → Except Fault Progress
  | .text characters => .ok (progress.put characters)
  | .tag tag =>
    match tag.name.toList with
    | '/' :: name => progress.closeNamed (Text.strip Text.isBlank name)
    | _ => do
      let name ← normalName tag.name
      let opened : OpenTag := ⟨name, tag.argument, progress.visible⟩
      return { progress with opened := opened :: progress.opened }

end Progress

/-- How many characters fit on a line. -/
def lineWidth : Nat := 80

/-- Whether some characters, last one first, fit on one line.  Blanks at the end do
not count, and tabs are never left as they are. -/
def fitsLine (characters : List Char) : Bool :=
  (characters.dropWhile Text.isBlank).length ≤ lineWidth &&
    !characters.any fun c => c == '\n' || c == '\t'

/-- What is shown of a text.  Styles are read only where something is shown in them,
unless the text fits on one line and is not broken up. -/
def shown (text : String) : Except Fault String := do
  let progress ← (pieces text).foldlM Progress.step {}
  let progress := progress.opened.foldl Progress.finish progress
  if progress.broken || (progress.idlyBroken && fitsLine progress.shown) then throw .unreadablePart
  return String.ofList progress.shown.reverse

end Styled
end DeclDocs
