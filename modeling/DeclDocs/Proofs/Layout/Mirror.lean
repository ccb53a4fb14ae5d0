import DeclDocs.Proofs.Layout.Attached

/-! # Mirror images

Attaching opening brackets is the mirror image of attaching closing brackets.  The mirror
image of a text is the text read backwards, with every bracket turned into the one that
faces it.  In a layout the sides of each concatenation change places besides; what is
pending in front of it is pending behind it in the mirror, in the opposite order.

The two passes are written in different ways: closing brackets are collected on the way
back from the end of a row, and opening brackets are carried along from its beginning.
They meet in a law of the first pass alone.  What it does to a row with more items behind
it is what it does to those items, and then to the row with what they leave pending
(`Chain.closed_append`).  With a single item behind the row these are the cases of the
second pass (`Chain.closed_mirror`).
-/
namespace DeclDocs

/-! ## Texts -/

/-- The bracket that faces a bracket, and any other character as it is. -/
def facing : Char → Char
  | '(' => ')'
  | ')' => '('
  | '[' => ']'
  | ']' => '['
  | '\x7b' => '\x7d'
  | '\x7d' => '\x7b'
  | '⦃' => '⦄'
  | '⦄' => '⦃'
  | c => c

/-- The mirror image of a text: its characters backwards, each bracket as the one facing
it. -/
def mirrorText (s : String) : String :=
  String.ofList (s.toList.reverse.map facing)

/-- The mirror image of a row of texts. -/
def mirrorTexts (texts : List String) : List String :=
  (texts.map mirrorText).reverse

theorem facing_facing (c : Char) : facing (facing c) = c := by
  fun_cases facing c with
  | case9 => simp [facing, *]
  | _ => rfl

theorem mirrorText_mirrorText (s : String) : mirrorText (mirrorText s) = s := by
  have htwice : facing ∘ facing = id := funext facing_facing
  simp [mirrorText, htwice]

theorem mirrorText_append (s t : String) :
    mirrorText (s ++ t) = mirrorText t ++ mirrorText s := by
  simp [mirrorText, String.ofList_append]

@[simp] theorem mirrorTexts_nil : mirrorTexts [] = [] := rfl

theorem mirrorTexts_concat (texts : List String) (s : String) :
    mirrorTexts (texts ++ [s]) = mirrorText s :: mirrorTexts texts := by
  simp [mirrorTexts]

theorem join_mirrorTexts (texts : List String) :
    String.join (mirrorTexts texts) = mirrorText (String.join texts) := by
  induction texts with
  | nil => rfl
  | cons s rest ih =>
    rw [mirrorTexts, List.map_cons, List.reverse_cons, ← mirrorTexts, join_concat, ih,
      String.join_cons, mirrorText_append]

/-- A text without characters is its own mirror image, and no other text's. -/
theorem mirrorText_eq_empty_iff {s : String} : mirrorText s = "" ↔ s = "" := by
  constructor
  · intro h
    rw [← mirrorText_mirrorText s, h]
    rfl
  · rintro rfl
    rfl

/-- The mirror images of the opening brackets are the closing brackets. -/
theorem mirrorText_mem_closingBrackets_iff {s : String} :
    mirrorText s ∈ closingBrackets ↔ s ∈ openingBrackets := by
  have hopening : ∀ bracket ∈ closingBrackets, mirrorText bracket ∈ openingBrackets := by
    decide +kernel
  have hclosing : ∀ bracket ∈ openingBrackets, mirrorText bracket ∈ closingBrackets := by
    decide +kernel
  constructor
  · intro h
    have hmem := hopening _ h
    rwa [mirrorText_mirrorText] at hmem
  · exact hclosing s

theorem isLoose_mirrorText_iff {s : String} :
    IsLoose closingBrackets (mirrorText s) ↔ IsLoose openingBrackets s := by
  rw [IsLoose, mirrorText_eq_empty_iff, mirrorText_mem_closingBrackets_iff, ← IsLoose]

/-! ## Chains -/

namespace Chain

section Shape

variable {F : Type}

/-- The mirror image of a chain: its items backwards, each as its mirror image. -/
def mirror : Chain F → Chain F
  | .nil => .nil
  | .text s rest => rest.mirror ++ .text (mirrorText s) .nil
  | .nest inner rest => rest.mirror ++ .nest inner.mirror .nil
  | .foreign node rest => rest.mirror ++ .foreign node .nil

theorem mirror_ne_nil {chain : Chain F} (h : chain ≠ .nil) : chain.mirror ≠ .nil := by
  cases chain with
  | nil => exact absurd rfl h
  | text | nest | foreign =>
    rw [mirror]
    exact append_ne_nil _ (by simp)

theorem mirror_append (chain after : Chain F) :
    (chain ++ after).mirror = after.mirror ++ chain.mirror := by
  induction chain with
  | nil => rw [nil_append, mirror, append_nil]
  | text s rest ih => rw [text_append, mirror, ih, mirror, append_assoc]
  | nest inner rest _ ih => rw [nest_append, mirror, ih, mirror, append_assoc]
  | foreign node rest ih => rw [foreign_append, mirror, ih, mirror, append_assoc]

theorem leanLeftFrom_append (chain after : Chain F) (done : Layout F) :
    (chain ++ after).leanLeftFrom done = after.leanLeftFrom (chain.leanLeftFrom done) := by
  induction chain generalizing done with
  | nil => rw [nil_append, leanLeftFrom]
  | text s rest ih => rw [text_append, leanLeftFrom, ih, leanLeftFrom]
  | nest inner rest _ ih => rw [nest_append, leanLeftFrom, ih, leanLeftFrom]
  | foreign node rest ih => rw [foreign_append, leanLeftFrom, ih, leanLeftFrom]

/-- More items behind a row are joined to it one by one. -/
theorem leanLeft_append {chain : Chain F} (h : chain ≠ .nil) (after : Chain F) :
    (chain ++ after).leanLeft = after.leanLeftFrom chain.leanLeft := by
  cases chain with
  | nil => exact absurd rfl h
  | text s rest => rw [text_append, leanLeft, leanLeftFrom_append, leanLeft]
  | nest inner rest => rw [nest_append, leanLeft, leanLeftFrom_append, leanLeft]
  | foreign node rest => rw [foreign_append, leanLeft, leanLeftFrom_append, leanLeft]

end Shape

/-- Closing brackets attach to two rows from the right, the second row first. -/
theorem closedAfter_append (chain after : Chain Empty) (pending : List String) :
    (chain ++ after).closedAfter pending =
      ((chain.closedAfter (after.closedAfter pending).2).1 ++ (after.closedAfter pending).1,
        (chain.closedAfter (after.closedAfter pending).2).2) := by
  induction chain with
  | nil => rw [nil_append, closedAfter_nil, nil_append]
  | text s rest ih =>
    rw [text_append]
    rcases closedAfter_text_cases s (rest ++ after) pending with ⟨rfl, h⟩ | ⟨hbracket, h⟩ |
      ⟨hloose, h⟩
    · rw [h, ih, closedAfter_empty]
    · rw [h, ih, closedAfter_bracket hbracket]
    · rw [h, ih, closedAfter_text hloose, text_append]
  | nest inner rest _ ih => rw [nest_append, closedAfter_nest, ih, closedAfter_nest, nest_append]
  | foreign node => exact node.elim

/-- What more items behind a row leave pending is attached to the row. -/
theorem closed_append {chain : Chain Empty} (h : chain ≠ .nil) (after : Chain Empty)
    (pending : List String) :
    (chain ++ after).closed pending =
      chain.closed (after.closedAfter pending).2 ++ (after.closedAfter pending).1 := by
  cases chain with
  | nil => exact absurd rfl h
  | text s rest => rw [text_append, closed_text, closedAfter_append, closed_text, text_append]
  | nest inner rest => rw [nest_append, closed_nest, closedAfter_append, closed_nest, nest_append]
  | foreign node => exact node.elim

/-- In the mirror, attaching closing brackets is attaching opening brackets. -/
theorem closed_mirror (chain : Chain Empty) (pending : List String) :
    chain.mirror.closed (mirrorTexts pending) = (chain.opened pending).mirror := by
  induction chain generalizing pending with
  | nil => rw [mirror, closed_nil, join_mirrorTexts, opened_nil, mirror, mirror, nil_append]
  | text s rest ih =>
    by_cases hrest : rest = .nil
    · rw [hrest, opened_text_last, mirror, mirror, nil_append, closed_text, closedAfter_nil,
        join_mirrorTexts, mirror, mirror, nil_append, mirrorText_append]
    rw [mirror, closed_append (mirror_ne_nil hrest)]
    rcases opened_text_cases s hrest pending with ⟨rfl, h⟩ | ⟨hbracket, h⟩ | ⟨hloose, h⟩
    · have hempty := mirrorText_eq_empty_iff.mpr (rfl : "" = "")
      rw [h, hempty, closedAfter_empty, closedAfter_nil, append_nil, ih]
    · have hfacing := mirrorText_mem_closingBrackets_iff.mpr hbracket
      rw [h, closedAfter_bracket hfacing, closedAfter_nil, append_nil, ← ih, mirrorTexts_concat]
    · have hstays := mt isLoose_mirrorText_iff.mp hloose
      rw [h, closedAfter_text hstays, closedAfter_nil, join_mirrorTexts, mirror, ← ih,
        mirrorTexts_nil, mirrorText_append]
  | nest inner rest ihi ih =>
    by_cases hrest : rest = .nil
    · rw [hrest, opened_nest_last, mirror, mirror, nil_append, closed_nest, closedAfter_nil, ihi,
        mirror, mirror, nil_append]
    · rw [mirror, closed_append (mirror_ne_nil hrest), closedAfter_nest, closedAfter_nil, ihi,
        opened_nest inner hrest, mirror, ← ih, mirrorTexts_nil]
  | foreign node => exact node.elim

end Chain

/-! ## Layouts -/

namespace Layout

section Shape

variable {F : Type}

/-- The mirror image of a layout. -/
def mirror : Layout F → Layout F
  | .leaf s => .leaf (mirrorText s)
  | .nest child => .nest child.mirror
  | .join left right => .join right.mirror left.mirror
  | .foreign node => .foreign node

theorem mirror_mirror (layout : Layout F) : layout.mirror.mirror = layout := by
  induction layout with
  | leaf s => rw [mirror, mirror, mirrorText_mirrorText]
  | nest child ih => rw [mirror, mirror, ih]
  | join left right ihl ihr => rw [mirror, mirror, ihl, ihr]
  | foreign node => rfl

theorem chain_mirror (layout : Layout F) : layout.mirror.chain = layout.chain.mirror := by
  induction layout with
  | leaf s => rw [mirror, chain_leaf, chain_leaf, Chain.mirror, Chain.mirror, Chain.nil_append]
  | nest child ih =>
    rw [mirror, chain_nest, ih, chain_nest, Chain.mirror, Chain.mirror, Chain.nil_append]
  | join left right ihl ihr => rw [mirror, chain_join, ihl, ihr, chain_join, Chain.mirror_append]
  | foreign node =>
    rw [mirror, chain_foreign, Chain.mirror, Chain.mirror, Chain.nil_append]

/-- What leans right leans left in the mirror. -/
theorem leanLeft_mirror (chain : Chain F) : chain.mirror.leanLeft = chain.leanRight.mirror := by
  induction chain with
  | nil => rfl
  | text s rest ih =>
    by_cases hrest : rest = .nil
    · rw [hrest]
      rfl
    · rw [Chain.mirror, Chain.leanLeft_append (Chain.mirror_ne_nil hrest), ih,
        Chain.leanRight_text s hrest]
      rfl
  | nest inner rest ihi ih =>
    by_cases hrest : rest = .nil
    · rw [hrest, Chain.mirror, Chain.mirror, Chain.nil_append, Chain.leanLeft, ihi]
      rfl
    · rw [Chain.mirror, Chain.leanLeft_append (Chain.mirror_ne_nil hrest), ih,
        Chain.leanRight_nest inner hrest, Chain.leanLeftFrom, ihi]
      rfl
  | foreign node rest ih =>
    by_cases hrest : rest = .nil
    · rw [hrest]
      rfl
    · rw [Chain.mirror, Chain.leanLeft_append (Chain.mirror_ne_nil hrest), ih,
        Chain.leanRight_foreign node hrest]
      rfl

end Shape

/-- **The two ways to attach brackets are mirror images.**  Attaching opening brackets to
a layout, whatever is pending in front of it, is attaching closing brackets to its mirror
image and looking at the result in the mirror. -/
theorem attachOpening_eq_mirror (layout : Layout Empty) (pending : List String) :
    layout.attachOpening pending =
      (layout.mirror.attachClosing (mirrorTexts pending)).mirror := by
  have hlean := leanLeft_mirror (layout.chain.opened pending)
  rw [attachOpening_eq, attachClosing_eq, chain_mirror, Chain.closed_mirror, hlean,
    mirror_mirror]

end Layout
end DeclDocs
