import DeclDocs.Styled.Color
import DeclDocs.Text.Blank

/-! # Styles

A style is described by words: effects, a color, a background after `on`, and a
link after `link`.  `not` takes an effect back, and of two words for the same
thing the last one counts.  Descriptions of the same style have one normal form,
by which they are compared.
-/
namespace DeclDocs
namespace Styled

/-- An effect of styled text. -/
inductive Effect where
  | bold
  | dim
  | italic
  | underline
  | blink
  | fastBlink
  | reverse
  | conceal
  | strike
  | doubleUnderline
  | frame
  | encircle
  | overline
  deriving DecidableEq, Repr

namespace Effect

/-- The effects, in the order in which a description names them. -/
def all : List Effect :=
  [.bold, .dim, .italic, .underline, .blink, .fastBlink, .reverse, .conceal, .strike,
   .doubleUnderline, .frame, .encircle, .overline]

/-- The word for an effect. -/
def word : Effect → String
  | .bold => "bold"
  | .dim => "dim"
  | .italic => "italic"
  | .underline => "underline"
  | .blink => "blink"
  | .fastBlink => "blink2"
  | .reverse => "reverse"
  | .conceal => "conceal"
  | .strike => "strike"
  | .doubleUnderline => "underline2"
  | .frame => "frame"
  | .encircle => "encircle"
  | .overline => "overline"

/-- The short words for effects. -/
def shortWords : List (String × Effect) :=
  [("b", .bold), ("d", .dim), ("i", .italic), ("u", .underline), ("r", .reverse),
   ("c", .conceal), ("s", .strike), ("uu", .doubleUnderline), ("o", .overline)]

/-- The effect that a word stands for. -/
def ofWord? (word : String) : Option Effect :=
  match all.find? (·.word == word) with
  | some effect => some effect
  | none => (shortWords.find? (·.1 == word)).map (·.2)

end Effect

/-- A style: the effects it speaks of, the last one first, each switched on or
off, and what else it has. -/
structure Style where
  effects : List (Effect × Bool) := []
  color : Option String := none
  background : Option String := none
  link : Option String := none
  deriving DecidableEq, Repr

namespace Style

/-- Reads words on top of a style. -/
def read (style : Style) : List String → Except StyleFault Style
  | [] => .ok style
  | word :: rest =>
    match Text.lower word, rest with
    | "on", color :: rest => do
      read { style with background := some (← Color.ofWord color) } rest
    | "not", word :: rest =>
      match Effect.ofWord? word with
      | some effect => read { style with effects := (effect, false) :: style.effects } rest
      | none => .error .unknown
    | "link", address :: rest => read { style with link := some address } rest
    | "on", [] | "not", [] | "link", [] => .error .unknown
    | word, rest =>
      match Effect.ofWord? word with
      | some effect => read { style with effects := (effect, true) :: style.effects } rest
      | none => do read { style with color := some (← Color.ofWord word) } rest

/-- The style that a text describes.  The word `none` on its own describes the
style that has nothing. -/
def ofText (text : String) : Except StyleFault Style :=
  let words := Text.words text
  if words = ["none"] then .ok {} else read {} words

/-- The words of a style for an effect that it may speak of. -/
def effectWords (style : Style) (effect : Effect) : List String :=
  match style.effects.find? (·.1 == effect) with
  | some (_, true) => [effect.word]
  | some (_, false) => ["not", effect.word]
  | none => []

/-- The description of a style. -/
def text (style : Style) : String :=
  let after (words : List String) : Option String → List String
    | some value => words ++ [value]
    | none => []
  let words := Effect.all.flatMap style.effectWords ++ after [] style.color ++
    after ["on"] style.background ++ after ["link"] style.link
  if words.isEmpty then "none" else String.intercalate " " words

/-- The normal form of a description.  A text that describes no style is its own
normal form, in lower case and without blanks around it. -/
def normalForm (description : String) : Except StyleFault String :=
  match ofText description with
  | .ok style => .ok style.text
  | .error .unknown =>
    .ok (Text.lower (String.ofList (Text.strip Text.isBlank description.toList)))
  | .error fault => .error fault

end Style
end Styled
end DeclDocs
