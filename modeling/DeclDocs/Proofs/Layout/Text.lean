import DeclDocs.Layout.Encoding
import DeclDocs.Markup.Basic
import DeclDocs.Proofs.Layout.Attached

/-! # Normalization keeps the text

Whatever the passes move, drop or merge, the text of a layout stays what it was.
On chains this is a statement about the pending brackets: they are part of the
text, in front of it (`allText_opened`) or behind it (`allText_closed`), and what
is still pending after a row of items belongs between what is on its left and what
is on its right (`allText_closedAfter`).  Merging and enclosing keep the text
one by one (`text_merge`, `text_enclose`).
-/
namespace DeclDocs
namespace Chain

/-- The texts of a chain, one after another. -/
def allText : Chain Empty → String
  | .nil => ""
  | .text s rest => s ++ rest.allText
  | .nest inner rest => inner.allText ++ rest.allText
  | .foreign absurdity _ => absurdity.elim

theorem allText_append (chain after : Chain Empty) :
    (chain ++ after).allText = chain.allText ++ after.allText := by
  induction chain with
  | nil => rw [nil_append, allText, String.empty_append]
  | text s rest ih => rw [text_append, allText, allText, ih, String.append_assoc]
  | nest inner rest _ ih => rw [nest_append, allText, allText, ih, String.append_assoc]
  | foreign node => exact node.elim

mutual

/-- The pending brackets follow the text of the chain. -/
theorem allText_closed : ∀ (chain : Chain Empty) (pending : List String),
    (chain.closed pending).allText = chain.allText ++ String.join pending
  | .nil, pending => by simp [allText]
  | .text s rest, pending => by
    rw [closed_text, allText, allText, String.append_assoc, allText_closedAfter rest pending,
      String.append_assoc]
  | .nest inner rest, pending => by
    rw [closed_nest, allText, allText, allText_closed inner, String.append_assoc,
      allText_closedAfter rest pending, String.append_assoc]
  | .foreign node _, _ => node.elim

/-- What is still pending on the left of the items precedes their text. -/
theorem allText_closedAfter : ∀ (chain : Chain Empty) (pending : List String),
    String.join (chain.closedAfter pending).2 ++ (chain.closedAfter pending).1.allText =
      chain.allText ++ String.join pending
  | .nil, pending => by simp [allText]
  | .text s rest, pending => by
    have ih := allText_closedAfter rest pending
    -- the text goes to what is pending, to the row, or nowhere if it is empty
    rcases closedAfter_text_cases s rest pending with ⟨rfl, h⟩ | ⟨-, h⟩ | ⟨-, h⟩
    · rw [h, ih, allText, String.empty_append]
    · rw [h, String.join_cons, String.append_assoc, ih, allText, String.append_assoc]
    · rw [h, String.join_nil, String.empty_append, allText, allText, String.append_assoc, ih,
        String.append_assoc]
  | .nest inner rest, pending => by
    rw [closedAfter_nest, String.join_nil, String.empty_append, allText, allText,
      allText_closed inner, String.append_assoc, allText_closedAfter rest pending,
      String.append_assoc]
  | .foreign node _, _ => node.elim

end

/-- The pending brackets precede the text of the chain. -/
theorem allText_opened (chain : Chain Empty) (pending : List String) :
    (chain.opened pending).allText = String.join pending ++ chain.allText := by
  induction chain generalizing pending with
  | nil => simp [allText]
  | text s rest ih =>
    by_cases hrest : rest = .nil
    · rw [hrest, opened_text_last]
      simp only [allText, String.append_assoc]
    rcases opened_text_cases s hrest pending with ⟨rfl, h⟩ | ⟨-, h⟩ | ⟨-, h⟩
    · rw [h, ih, allText, String.empty_append]
    · rw [h, ih, join_concat, allText, String.append_assoc]
    · rw [h, allText, ih, String.join_nil, String.empty_append, allText, String.append_assoc]
  | nest inner rest ihi ih =>
    by_cases hrest : rest = .nil
    · rw [hrest, opened_nest_last]
      simp only [allText, ihi, String.append_assoc]
    · rw [opened_nest inner hrest, allText, allText, ihi, ih, String.join_nil,
        String.empty_append, String.append_assoc]
  | foreign node => exact node.elim

end Chain

namespace Layout

theorem allText_chain (layout : Layout Empty) : layout.chain.allText = layout.text := by
  induction layout with
  | leaf s => rw [chain_leaf, Chain.allText, Chain.allText, String.append_empty, text_leaf]
  | nest child ih =>
    rw [chain_nest, Chain.allText, Chain.allText, String.append_empty, ih, text_nest]
  | join left right ihl ihr => rw [chain_join, Chain.allText_append, ihl, ihr, text_join]
  | foreign node => exact node.elim

theorem text_attachClosing (layout : Layout Empty) (pending : List String) :
    (layout.attachClosing pending).text = layout.text ++ String.join pending := by
  rw [← allText_chain, chain_attachClosing, Chain.allText_closed, allText_chain]

theorem text_attachOpening (layout : Layout Empty) (pending : List String) :
    (layout.attachOpening pending).text = String.join pending ++ layout.text := by
  rw [← allText_chain, chain_attachOpening, Chain.allText_opened, allText_chain]

theorem text_attachBrackets (layout : Layout Empty) :
    layout.attachBrackets.text = layout.text := by
  rw [← allText_chain, chain_attachBrackets, Chain.allText_opened, Chain.allText_closed,
    String.join_nil, String.empty_append, String.append_empty, allText_chain]

theorem text_merge (left right : Layout Empty) :
    (left.merge right).text = left.text ++ right.text := by
  rcases merge_cases left right with ⟨a, b, rfl, rfl, h⟩ | ⟨a, b, rest, rfl, rfl, h⟩ |
    ⟨rest, a, b, rfl, rfl, h⟩ | h
  · rw [h, text_leaf, text_leaf, text_leaf]
  · rw [h, text_join, text_join, text_leaf, text_leaf, text_leaf, String.append_assoc]
  · rw [h, text_join, text_join, text_leaf, text_leaf, text_leaf, String.append_assoc]
  · rw [h, text_join]

theorem text_enclose (child : Layout Empty) : child.enclose.text = child.text := by
  cases child with
  | leaf s =>
    rw [enclose]
    split
    next => rw [text_nest]
    next => rfl
  | nest child => rfl
  | join left right => exact text_nest (.join left right)
  | foreign node => exact node.elim

theorem text_simplify (layout : Layout Empty) : layout.simplify.text = layout.text := by
  induction layout with
  | leaf s => rw [simplify_leaf]
  | nest child ih => rw [simplify_nest, text_enclose, ih, text_nest]
  | join left right ihl ihr => rw [simplify_join, text_merge, ihl, ihr, text_join]
  | foreign node => exact node.elim

theorem text_normalize (layout : Layout Empty) : layout.normalize.text = layout.text := by
  rw [normalize_eq, text_simplify, text_attachBrackets]

end Layout

namespace Markup

theorem text_toLayout (markup : Markup Empty) : markup.toLayout.text = markup.text := by
  induction markup with
  | raw s => rw [toLayout_raw, Layout.text_leaf, text]
  | group child ih => rw [toLayout_group, ih, text]
  | highlight color child ih => rw [toLayout_highlight, ih, text]
  | nest indent child ih => rw [toLayout_nest, Layout.text_nest, ih, text]
  | join left right ihl ihr => rw [toLayout_join, Layout.text_join, ihl, ihr, text]
  | foreign node => exact node.elim

end Markup

/-- **Normalization never changes text.**  The layout that is shown for markup
reads as the raw texts of the markup one after another.  Attaching brackets adds
exactly what is pending, on the side where it is pending, and everything else
keeps the text as it is. -/
theorem normalization_keeps_text :
    (∀ markup : Markup Empty, markup.normalLayout.text = markup.text) ∧
    ∀ (layout : Layout Empty) (pending : List String),
      (layout.attachClosing pending).text = layout.text ++ String.join pending ∧
      (layout.attachOpening pending).text = String.join pending ++ layout.text ∧
      layout.simplify.text = layout.text ∧
      layout.attachBrackets.text = layout.text ∧
      layout.normalize.text = layout.text := by
  constructor
  · intro markup
    rw [Markup.normalLayout, Layout.text_normalize, Markup.text_toLayout]
  · intro layout pending
    exact ⟨layout.text_attachClosing pending, layout.text_attachOpening pending,
      layout.text_simplify, layout.text_attachBrackets, layout.text_normalize⟩

end DeclDocs
