import DeclDocs.Layout.Chain

/-! # Attaching brackets

A printer hands over every bracket as a text of its own.  Here a closing bracket
is attached to the text on its left and an opening bracket to the text on its
right, across the boundary of a nest if need be, so that brackets never stand
alone on a line.  Empty texts are left out on the way.

Closing brackets are collected from the right end of a chain.  The first item
has nothing on its left and takes whatever is pending, also if it is empty or a
bracket itself.  Opening brackets are collected from the left end in the same
way, and the last item takes what is pending.
-/
namespace DeclDocs

/-- The texts that are attached to what follows them. -/
def openingBrackets : List String := ["(", "[", "\x7b", "⦃"]

/-- The texts that are attached to what precedes them. -/
def closingBrackets : List String := [")", "]", "\x7d", "⦄"]

namespace Chain

variable {F : Type}

mutual

/-- The chain with closing brackets attached, when the brackets `pending` follow
it.  The first item is kept whatever it is. -/
def attachClosing : Chain F → (pending : List String) → Except F (Chain F)
  | .nil, pending => .ok (.text (String.join pending) .nil)
  | .text s rest, pending => do
    let (rest, pending) ← rest.closeAfter pending
    return .text (s ++ String.join pending) rest
  | .nest inner rest, pending => do
    let (rest, pending) ← rest.closeAfter pending
    let inner ← inner.attachClosing pending
    return .nest inner rest
  | .foreign node rest, pending => do
    let _ ← rest.closeAfter pending
    throw node

/-- The items after the first of a chain with closing brackets attached, and the
brackets among them that are still pending on their left. -/
def closeAfter : Chain F → (pending : List String) → Except F (Chain F × List String)
  | .nil, pending => .ok (.nil, pending)
  | .text s rest, pending => do
    let (rest, pending) ← rest.closeAfter pending
    if s = "" then return (rest, pending)
    else if s ∈ closingBrackets then return (rest, s :: pending)
    else return (.text (s ++ String.join pending) rest, [])
  | .nest inner rest, pending => do
    let (rest, pending) ← rest.closeAfter pending
    let inner ← inner.attachClosing pending
    return (.nest inner rest, [])
  | .foreign node rest, pending => do
    let _ ← rest.closeAfter pending
    throw node

end

/-- The chain with opening brackets attached, when the brackets `pending` stand
before it.  The last item is kept whatever it is. -/
def attachOpening : Chain F → (pending : List String) → Except F (Chain F)
  | .nil, pending => .ok (.text (String.join pending) .nil)
  | .text s .nil, pending => .ok (.text (String.join pending ++ s) .nil)
  | .text s rest, pending =>
    if s = "" then rest.attachOpening pending
    else if s ∈ openingBrackets then rest.attachOpening (pending ++ [s])
    else do
      let rest ← rest.attachOpening []
      return .text (String.join pending ++ s) rest
  | .nest inner .nil, pending => do
    let inner ← inner.attachOpening pending
    return .nest inner .nil
  | .nest inner rest, pending => do
    let inner ← inner.attachOpening pending
    let rest ← rest.attachOpening []
    return .nest inner rest
  | .foreign node _, _ => throw node

end Chain

namespace Layout

variable {F : Type}

/-- The layout with closing brackets attached, when the brackets `pending` follow
it.  Its concatenations lean left. -/
def attachClosing? (layout : Layout F) (pending : List String) : Except F (Layout F) := do
  return (← layout.chain.attachClosing pending).leanLeft

/-- The layout with opening brackets attached, when the brackets `pending` stand
before it.  Its concatenations lean right. -/
def attachOpening? (layout : Layout F) (pending : List String) : Except F (Layout F) := do
  return (← layout.chain.attachOpening pending).leanRight

/-- The layout with closing brackets and then opening brackets attached. -/
def attachBrackets? (layout : Layout F) : Except F (Layout F) := do
  (← layout.attachClosing? []).attachOpening? []

/-- Closing brackets attached, where no node is foreign. -/
def attachClosing (layout : Layout Empty) (pending : List String) : Layout Empty :=
  certain (layout.attachClosing? pending)

/-- Opening brackets attached, where no node is foreign. -/
def attachOpening (layout : Layout Empty) (pending : List String) : Layout Empty :=
  certain (layout.attachOpening? pending)

/-- All brackets attached, where no node is foreign. -/
def attachBrackets (layout : Layout Empty) : Layout Empty :=
  certain layout.attachBrackets?

end Layout
end DeclDocs
