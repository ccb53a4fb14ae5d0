import DeclDocs.Layout.Brackets
import DeclDocs.Layout.Simplify

/-! # Normal layouts

The layout written to a document is the smallest one with the text and the
meaningful nests of the printer's: brackets attached, then simplified.
-/
namespace DeclDocs
namespace Layout

variable {F : Type}

/-- The normal form of a layout. -/
def normalize? (layout : Layout F) : Except F (Layout F) := do
  (← layout.attachBrackets?).simplify?

/-- The normal form of a layout without foreign nodes. -/
def normalize (layout : Layout Empty) : Layout Empty :=
  certain layout.normalize?

end Layout
end DeclDocs
