import DeclDocs.Proofs.Layout.Canonical
import DeclDocs.Proofs.Layout.Loose

/-! # Fixed points of normalization

Normalization is not idempotent: a nest around a lone bracket collapses only when
the brackets have been attached, and that bracket is left alone in its row.  The
layouts that normalization leaves as they are can be told by their look: they are
canonical, and every row is *glued*, with no empty text, closing bracket or
opening bracket in it that is still to be attached.

What a pass does to a layout cannot be undone by a later one, because no pass adds
a text: the number of texts is a measure for all of them (`textCount_closed_le`,
`textCount_opened_le`, `textCount_simplify_le`).  A pass that keeps it has
dropped and moved nothing, hence met no loose text.
-/
namespace DeclDocs

/-- Whether brackets are attached in a row as far as they can be: among two or
more items there is no empty text, no closing bracket stands after the first and
no opening bracket before the last. -/
structure IsGlued (row : Row) : Prop where
  noEmpty : 2 ≤ row.length → some "" ∉ row
  noClosing : ∀ s ∈ closingBrackets, some s ∉ row.tail
  noOpening : ∀ s ∈ openingBrackets, some s ∉ row.dropLast

/-- A row is glued when it is free of loose texts, closing and opening. -/
theorem isGlued_iff {row : Row} : IsGlued row ↔ NoLooseClosing row ∧ NoLooseOpening row := by
  constructor
  · rintro ⟨hempty, hclosing, hopening⟩
    constructor
    · rintro s hs (rfl | hbracket)
      · have hpos := List.length_pos_of_mem hs
        rw [List.length_tail] at hpos
        exact hempty (by omega) (List.mem_of_mem_tail hs)
      · exact hclosing s hbracket hs
    · rintro s hs (rfl | hbracket)
      · have hpos := List.length_pos_of_mem hs
        rw [List.length_dropLast] at hpos
        exact hempty (by omega) (List.dropLast_subset row hs)
      · exact hopening s hbracket hs
  · rintro ⟨hclosing, hopening⟩
    refine ⟨?_, fun s hs hmem => hclosing s hmem (Or.inr hs),
      fun s hs hmem => hopening s hmem (Or.inr hs)⟩
    intro hlength hmem
    -- of two or more items the first stands before the last, all others after the first
    match row, hlength, hmem with
    | item :: next :: rest, _, hmem =>
      rcases List.mem_cons.mp hmem with rfl | htail
      · exact hopening "" List.mem_cons_self (Or.inl rfl)
      · exact hclosing "" htail (Or.inl rfl)

namespace Chain

theorem atEveryLevel_isGlued_iff {chain : Chain Empty} :
    chain.AtEveryLevel IsGlued ↔
      chain.AtEveryLevel NoLooseClosing ∧ chain.AtEveryLevel NoLooseOpening := by
  have hglued : IsGlued = fun row => NoLooseClosing row ∧ NoLooseOpening row :=
    funext fun _ => propext isGlued_iff
  rw [hglued, atEveryLevel_and]

/-- The number of texts in a chain. -/
def textCount : Chain Empty → Nat
  | .nil => 0
  | .text _ rest => rest.textCount + 1
  | .nest inner rest => inner.textCount + rest.textCount
  | .foreign absurdity _ => absurdity.elim

theorem textCount_append (chain after : Chain Empty) :
    (chain ++ after).textCount = chain.textCount + after.textCount := by
  induction chain with
  | nil => rw [nil_append, textCount, Nat.zero_add]
  | text s rest ih => rw [text_append, textCount, textCount, ih]; omega
  | nest inner rest _ ih => rw [nest_append, textCount, textCount, ih]; omega
  | foreign node => exact node.elim

/-! ## Closing brackets -/

mutual

theorem textCount_closed_le : ∀ chain : Chain Empty, chain.Filled → ∀ pending,
    (chain.closed pending).textCount ≤ chain.textCount
  | .nil, hfilled, _ => absurd rfl hfilled.ne_nil
  | .text s rest, hfilled, pending => by
    have hrest := textCount_closedAfter_le rest hfilled.2 pending
    rw [closed_text, textCount, textCount]
    omega
  | .nest inner rest, hfilled, pending => by
    have hrest := textCount_closedAfter_le rest hfilled.2.2 pending
    have hinner := textCount_closed_le inner hfilled.2.1 (rest.closedAfter pending).2
    rw [closed_nest, textCount, textCount]
    omega
  | .foreign node _, _, _ => node.elim

theorem textCount_closedAfter_le : ∀ chain : Chain Empty, chain.InNests (· ≠ []) → ∀ pending,
    (chain.closedAfter pending).1.textCount ≤ chain.textCount
  | .nil, _, _ => Nat.le_refl _
  | .text s rest, hnests, pending => by
    have hrest := textCount_closedAfter_le rest hnests pending
    rw [textCount]
    rcases closedAfter_text_cases s rest pending with ⟨-, h⟩ | ⟨-, h⟩ | ⟨-, h⟩
    · rw [h]
      exact Nat.le_succ_of_le hrest
    · rw [h]
      exact Nat.le_succ_of_le hrest
    · rw [h, textCount]
      exact Nat.succ_le_succ hrest
  | .nest inner rest, hnests, pending => by
    have hrest := textCount_closedAfter_le rest hnests.2 pending
    have hinner := textCount_closed_le inner hnests.1 (rest.closedAfter pending).2
    rw [closedAfter_nest, textCount, textCount]
    omega
  | .foreign node _, _, _ => node.elim

end

mutual

/-- If attaching closing brackets drops no text, then none was loose. -/
theorem noLooseClosing_of_textCount_le : ∀ chain : Chain Empty, chain.Filled → ∀ pending,
    chain.textCount ≤ (chain.closed pending).textCount → chain.AtEveryLevel NoLooseClosing
  | .nil, hfilled, _, _ => absurd rfl hfilled.ne_nil
  | .text s rest, hfilled, pending, hcount => by
    rw [closed_text, textCount, textCount] at hcount
    exact noLoose_of_textCount_le rest hfilled.2 pending (by omega)
  | .nest inner rest, hfilled, pending, hcount => by
    have hrest := textCount_closedAfter_le rest hfilled.2.2 pending
    have hinner := textCount_closed_le inner hfilled.2.1 (rest.closedAfter pending).2
    rw [closed_nest, textCount, textCount] at hcount
    obtain ⟨hrow, hnests⟩ := noLoose_of_textCount_le rest hfilled.2.2 pending (by omega)
    have hinside := noLooseClosing_of_textCount_le inner hfilled.2.1
      (rest.closedAfter pending).2 (by omega)
    exact ⟨hrow, hinside, hnests⟩
  | .foreign node _, _, _, _ => node.elim

theorem noLoose_of_textCount_le : ∀ chain : Chain Empty, chain.InNests (· ≠ []) → ∀ pending,
    chain.textCount ≤ (chain.closedAfter pending).1.textCount →
      NoLoose closingBrackets chain.row ∧ chain.InNests NoLooseClosing
  | .nil, _, _, _ => ⟨noLoose_nil _, trivial⟩
  | .text s rest, hnests, pending, hcount => by
    have hrest := textCount_closedAfter_le rest hnests pending
    rw [textCount] at hcount
    rcases closedAfter_text_cases s rest pending with ⟨-, h⟩ | ⟨-, h⟩ | ⟨hloose, h⟩
    · rw [h] at hcount
      exact absurd (hcount.trans hrest) (Nat.not_succ_le_self _)
    · rw [h] at hcount
      exact absurd (hcount.trans hrest) (Nat.not_succ_le_self _)
    · rw [h, textCount] at hcount
      obtain ⟨hrow, hinside⟩ := noLoose_of_textCount_le rest hnests pending
        (Nat.le_of_succ_le_succ hcount)
      exact ⟨noLoose_text_cons.mpr ⟨hloose, hrow⟩, hinside⟩
  | .nest inner rest, hnests, pending, hcount => by
    have hrest := textCount_closedAfter_le rest hnests.2 pending
    have hinner := textCount_closed_le inner hnests.1 (rest.closedAfter pending).2
    rw [closedAfter_nest, textCount, textCount] at hcount
    obtain ⟨hrow, hinside⟩ := noLoose_of_textCount_le rest hnests.2 pending (by omega)
    have hlevel := noLooseClosing_of_textCount_le inner hnests.1
      (rest.closedAfter pending).2 (by omega)
    exact ⟨noLoose_none_cons.mpr hrow, hlevel, hinside⟩
  | .foreign node _, _, _, _ => node.elim

end

/-! ## Opening brackets -/

theorem textCount_opened_le {chain : Chain Empty} (hfilled : chain.Filled)
    (pending : List String) : (chain.opened pending).textCount ≤ chain.textCount := by
  induction chain generalizing pending with
  | nil => exact absurd rfl hfilled.ne_nil
  | text s rest ih =>
    by_cases hrest : rest = .nil
    · rw [hrest, opened_text_last]
      exact Nat.le_refl _
    have hfill : rest.Filled := InNests.filled hfilled.2 hrest
    have hle := ih hfill
    rw [textCount]
    rcases opened_text_cases s hrest pending with ⟨-, h⟩ | ⟨-, h⟩ | ⟨-, h⟩
    · rw [h]
      exact Nat.le_succ_of_le (hle pending)
    · rw [h]
      exact Nat.le_succ_of_le (hle (pending ++ [s]))
    · rw [h, textCount]
      exact Nat.succ_le_succ (hle [])
  | nest inner rest ihi ih =>
    obtain ⟨-, hinner, hnests⟩ := hfilled
    have hle := ihi hinner pending
    by_cases hrest : rest = .nil
    · rw [hrest, opened_nest_last]
      exact hle
    · have hler := ih (InNests.filled hnests hrest) []
      rw [opened_nest inner hrest, textCount, textCount]
      omega
  | foreign node => exact node.elim

/-- If attaching opening brackets drops no text, then none was loose. -/
theorem noLooseOpening_of_textCount_le {chain : Chain Empty} (hfilled : chain.Filled)
    (pending : List String) (hcount : chain.textCount ≤ (chain.opened pending).textCount) :
    chain.AtEveryLevel NoLooseOpening := by
  induction chain generalizing pending with
  | nil => exact absurd rfl hfilled.ne_nil
  | text s rest ih =>
    by_cases hrest : rest = .nil
    · rw [hrest]
      exact ⟨noLoose_nil _, trivial⟩
    have hfill : rest.Filled := InNests.filled hfilled.2 hrest
    have hle := textCount_opened_le hfill
    rw [textCount] at hcount
    rcases opened_text_cases s hrest pending with ⟨-, h⟩ | ⟨-, h⟩ | ⟨hloose, h⟩
    · rw [h] at hcount
      exact absurd (hcount.trans (hle pending)) (Nat.not_succ_le_self _)
    · rw [h] at hcount
      exact absurd (hcount.trans (hle (pending ++ [s]))) (Nat.not_succ_le_self _)
    · rw [h, textCount] at hcount
      obtain ⟨hrow, hinside⟩ := ih hfill [] (Nat.le_of_succ_le_succ hcount)
      exact ⟨(noLooseOpening_text_cons hfill.1).mpr ⟨hloose, hrow⟩, hinside⟩
  | nest inner rest ihi ih =>
    obtain ⟨-, hinner, hnests⟩ := hfilled
    have hle := textCount_opened_le hinner pending
    by_cases hrest : rest = .nil
    · rw [hrest, opened_nest_last] at hcount
      rw [hrest]
      exact ⟨noLoose_nil _, ihi hinner pending hcount, trivial⟩
    · have hfill := InNests.filled hnests hrest
      have hler := textCount_opened_le hfill []
      rw [opened_nest inner hrest, textCount, textCount] at hcount
      obtain ⟨hrow, hinside⟩ := ih hfill [] (by omega)
      exact ⟨noLooseOpening_none_cons.mpr hrow, ihi hinner pending (by omega), hinside⟩
  | foreign node => exact node.elim

end Chain

namespace Layout

/-! ## The measure -/

/-- The number of texts in a layout. -/
def textCount : Layout Empty → Nat
  | .leaf _ => 1
  | .nest child => child.textCount
  | .join left right => left.textCount + right.textCount
  | .foreign absurdity => absurdity.elim

theorem textCount_chain (layout : Layout Empty) :
    layout.chain.textCount = layout.textCount := by
  induction layout with
  | leaf s => rw [chain_leaf]; rfl
  | nest child ih => rw [chain_nest, Chain.textCount, ih]; rfl
  | join left right ihl ihr => rw [chain_join, Chain.textCount_append, ihl, ihr, textCount]
  | foreign node => exact node.elim

theorem textCount_merge_le (left right : Layout Empty) :
    (left.merge right).textCount ≤ left.textCount + right.textCount := by
  rcases merge_cases left right with ⟨a, b, rfl, rfl, h⟩ | ⟨a, b, rest, rfl, rfl, h⟩ |
    ⟨rest, a, b, rfl, rfl, h⟩ | h
  · rw [h]
    simp only [textCount]
    omega
  · rw [h]
    simp only [textCount]
    omega
  · rw [h]
    simp only [textCount]
    omega
  · rw [h, textCount]

theorem textCount_enclose (child : Layout Empty) : child.enclose.textCount = child.textCount := by
  cases child with
  | leaf s =>
    rw [enclose]
    split <;> rfl
  | nest | join | foreign => rfl

theorem textCount_simplify_le (layout : Layout Empty) :
    layout.simplify.textCount ≤ layout.textCount := by
  induction layout with
  | leaf s => rw [simplify_leaf]
  | nest child ih => rw [simplify_nest, textCount_enclose, textCount]; exact ih
  | join left right ihl ihr =>
    have hmerge := textCount_merge_le left.simplify right.simplify
    rw [simplify_join, textCount]
    omega
  | foreign node => exact node.elim

/-- **The fixed points of normalization** are the canonical layouts in which
brackets are attached as far as they can be, at every level. -/
theorem normalize_eq_self_iff (layout : Layout Empty) :
    layout.normalize = layout ↔ layout.IsCanonical ∧ layout.AtEveryLevel IsGlued := by
  have hfilled := filled_chain layout
  rw [← atEveryLevel_chain, Chain.atEveryLevel_isGlued_iff]
  constructor
  · intro h
    have hcanonical := isCanonical_simplify (leansRight_attachBrackets layout)
    rw [← normalize_eq, h] at hcanonical
    -- no pass adds a text, so none of them drops one
    have hsimplify := textCount_simplify_le layout.attachBrackets
    rw [← normalize_eq, h, ← textCount_chain, ← textCount_chain, chain_attachBrackets]
      at hsimplify
    have hopened := Chain.textCount_opened_le (Chain.filled_closed layout.chain []) []
    have hclosing := Chain.noLooseClosing_of_textCount_le _ hfilled [] (hsimplify.trans hopened)
    rw [Chain.closed_eq_self _ hfilled hclosing] at hsimplify
    exact ⟨hcanonical, hclosing, Chain.noLooseOpening_of_textCount_le hfilled [] hsimplify⟩
  · rintro ⟨hcanonical, hclosing, hopening⟩
    rw [normalize_eq, attachBrackets_eq, Chain.closed_eq_self _ hfilled hclosing,
      Chain.opened_eq_self hfilled hopening, leanRight_chain hcanonical.leansRight,
      simplify_eq_self hcanonical]

/-- A bracket that was alone in a nest is only attached by a second run. -/
example :
    normalize (.join (.nest (.leaf "a b")) (.nest (.leaf ")"))) =
        .join (.nest (.leaf "a b")) (.leaf ")") ∧
      normalize (.join (.nest (.leaf "a b")) (.leaf ")")) = .nest (.leaf "a b)") := by
  decide +kernel

end Layout
end DeclDocs
