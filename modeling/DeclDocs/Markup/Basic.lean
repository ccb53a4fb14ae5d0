import DeclDocs.Layout.Normal

/-! # Markup

The host's printer marks up an expression: raw text, groups, highlighted parts,
nests with an indent, and concatenations.  Of all this only the nests and the
concatenations matter to a layout.

Like a layout, markup may hold foreign nodes of some type, and `Markup Empty` is
the type of markup without any.
-/
namespace DeclDocs

/-- How far a nest is indented.  Some printers write a truth value there, which
is kept as it is. -/
inductive Indent where
  | width (columns : Int)
  | flag (value : Bool)
  deriving Inhabited, DecidableEq, Repr

/-- A marked-up expression whose foreign nodes are of type `F`. -/
inductive Markup (F : Type) where
  | raw (text : String)
  | group (child : Markup F)
  | highlight (color : String) (child : Markup F)
  | nest (indent : Indent) (child : Markup F)
  | join (left right : Markup F)
  | foreign (node : F)
  deriving Inhabited, DecidableEq, Repr

namespace Markup

variable {F : Type}

/-- The layout of marked-up text, or the first foreign node in it. -/
def toLayout? : Markup F → Except F (Layout F)
  | .raw s => .ok (.leaf s)
  | .group child => child.toLayout?
  | .highlight _ child => child.toLayout?
  | .nest _ child => do
    let child ← child.toLayout?
    return .nest child
  | .join left right => do
    let left ← left.toLayout?
    let right ← right.toLayout?
    return .join left right
  | .foreign node => .error node

/-- The layout of markup without foreign nodes. -/
def toLayout (markup : Markup Empty) : Layout Empty :=
  certain markup.toLayout?

@[simp] theorem toLayout_raw (s : String) : toLayout (.raw s) = .leaf s := rfl

@[simp] theorem toLayout_group (child : Markup Empty) :
    toLayout (.group child) = child.toLayout := rfl

@[simp] theorem toLayout_highlight (color : String) (child : Markup Empty) :
    toLayout (.highlight color child) = child.toLayout := rfl

@[simp] theorem toLayout_nest (indent : Indent) (child : Markup Empty) :
    toLayout (.nest indent child) = .nest child.toLayout := by
  rw [toLayout, toLayout?, certain_bind, certain_pure, ← toLayout]

@[simp] theorem toLayout_join (left right : Markup Empty) :
    toLayout (.join left right) = .join left.toLayout right.toLayout := by
  rw [toLayout, toLayout?, certain_bind, certain_bind, certain_pure, ← toLayout, ← toLayout]

/-- The layout that a document shows for marked-up text. -/
def normalLayout (markup : Markup Empty) : Layout Empty :=
  markup.toLayout.normalize

/-- The raw texts of markup, one after another. -/
def text : Markup Empty → String
  | .raw s => s
  | .group child => child.text
  | .highlight _ child => child.text
  | .nest _ child => child.text
  | .join left right => left.text ++ right.text
  | .foreign absurdity => nomatch absurdity

end Markup
end DeclDocs
