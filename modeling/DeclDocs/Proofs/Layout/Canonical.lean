import Mathlib.Data.List.Chain
import DeclDocs.Proofs.Layout.Attached
import DeclDocs.Proofs.Layout.Simplified

/-! # Canonical layouts

A layout is *canonical* if its concatenations lean right, no two texts stand next
to each other in any of its rows, and every nest says something: its child is no
nest itself, and a text only if that can be broken.  Every normal layout is
canonical.

Simplification alone does not achieve this, since merging looks only one step into
either side.  It does on a layout that leans right (`isCanonical_simplify`), as
the layouts with brackets attached do: what stands on the left of a concatenation
is then a single item and is simplified to a single item, so that the texts that
meet are always in reach.  Conversely canonical layouts are simplified, and
simplification leaves them as they are (`simplify_eq_self`).
-/
namespace DeclDocs

/-- No two neighbours in the row are both texts. -/
def TextsApart (row : Row) : Prop :=
  row.IsChain fun item next => item = none ∨ next = none

namespace Layout

section Shape

variable {F : Type}

/-- Whether every nest in the layout says something about its child. -/
def NestsNeeded : Layout F → Prop
  | .leaf _ => True
  | .nest child => child.NeedsNest ∧ child.NestsNeeded
  | .join left right => left.NestsNeeded ∧ right.NestsNeeded
  | .foreign _ => True

/-- The shape of normal layouts. -/
structure IsCanonical (layout : Layout F) : Prop where
  leansRight : layout.LeansRight
  textsApart : layout.AtEveryLevel TextsApart
  nestsNeeded : layout.NestsNeeded

/-- Whether two rows can stand next to each other without two texts meeting. -/
def RowsApart (left right : Row) : Prop :=
  ∀ item ∈ left.getLast?, ∀ next ∈ right.head?, item = none ∨ next = none

theorem isCanonical_leaf (s : String) : (leaf s : Layout F).IsCanonical where
  leansRight := trivial
  textsApart := ⟨.singleton _, trivial⟩
  nestsNeeded := trivial

theorem isCanonical_nest_iff {child : Layout F} :
    (nest child).IsCanonical ↔ child.NeedsNest ∧ child.IsCanonical := by
  constructor
  · rintro ⟨hlean, ⟨-, hrows⟩, hneeds, hnests⟩
    exact ⟨hneeds, hlean, hrows, hnests⟩
  · rintro ⟨hneeds, hlean, hrows, hnests⟩
    exact ⟨hlean, ⟨.singleton _, hrows⟩, hneeds, hnests⟩

theorem isCanonical_join_iff {left right : Layout F} :
    (join left right).IsCanonical ↔
      ¬ left.IsJoin ∧ left.IsCanonical ∧ right.IsCanonical ∧ RowsApart left.row right.row := by
  constructor
  · rintro ⟨⟨hjoin, hleft, hright⟩, ⟨hrow, hnestsl, hnestsr⟩, hneedsl, hneedsr⟩
    obtain ⟨hrowl, hrowr, hapart⟩ := List.isChain_append.mp hrow
    exact ⟨hjoin, ⟨hleft, ⟨hrowl, hnestsl⟩, hneedsl⟩, ⟨hright, ⟨hrowr, hnestsr⟩, hneedsr⟩, hapart⟩
  · rintro ⟨hjoin, ⟨hleft, ⟨hrowl, hnestsl⟩, hneedsl⟩, ⟨hright, ⟨hrowr, hnestsr⟩, hneedsr⟩, hapart⟩
    exact ⟨⟨hjoin, hleft, hright⟩,
      ⟨List.isChain_append.mpr ⟨hrowl, hrowr, hapart⟩, hnestsl, hnestsr⟩, hneedsl, hneedsr⟩

/-- An item that is no text keeps apart from everything that follows it. -/
theorem rowsApart_none (row : Row) : RowsApart [none] row := by
  intro item hitem next _
  simp only [List.getLast?_singleton, Option.mem_some] at hitem
  exact Or.inl hitem.symm

theorem rowsApart_text_iff {s : String} {row : Row} :
    RowsApart [some s] row ↔ ∀ t, row.head? ≠ some (some t) := by
  constructor
  · intro h t ht
    have := h (some s) rfl (some t) ht
    simp at this
  · intro h item _ next hnext
    cases next with
    | none => exact Or.inr rfl
    | some t => exact absurd hnext (h t)

/-! ## Merging and enclosing -/

/-- What stands first in a canonical layout: a text that merging can reach, or no
text. -/
theorem IsCanonical.first {layout : Layout F} (h : layout.IsCanonical) :
    (∃ s, layout = leaf s) ∨ (∃ s rest, layout = join (leaf s) rest) ∨
      ∀ s, layout.row.head? ≠ some (some s) := by
  cases layout with
  | leaf s => exact Or.inl ⟨s, rfl⟩
  | nest | foreign => exact Or.inr (Or.inr (by simp [row]))
  | join left right =>
    cases left with
    | leaf s => exact Or.inr (Or.inl ⟨s, right, rfl⟩)
    | nest | foreign => exact Or.inr (Or.inr (by simp [row]))
    | join => exact absurd trivial (isCanonical_join_iff.mp h).1

/-- In a canonical concatenation no two texts meet. -/
theorem IsCanonical.not_textsMeet {left right : Layout F} (h : (join left right).IsCanonical) :
    ¬ TextsMeet left right := by
  obtain ⟨hjoin, -, -, hapart⟩ := isCanonical_join_iff.mp h
  intro hmeet
  cases hmeet with
  | wholes a b => exact rowsApart_text_iff.mp hapart b rfl
  | opening a b rest => exact rowsApart_text_iff.mp hapart b rfl
  | closing => exact hjoin trivial

theorem IsCanonical.isSimplified {layout : Layout F} (h : layout.IsCanonical) :
    layout.IsSimplified := by
  induction layout with
  | leaf | foreign => trivial
  | nest child ih =>
    obtain ⟨hneeds, hchild⟩ := isCanonical_nest_iff.mp h
    exact ⟨hneeds, ih hchild⟩
  | join left right ihl ihr =>
    obtain ⟨-, hleft, hright, -⟩ := isCanonical_join_iff.mp h
    exact ⟨h.not_textsMeet, ihl hleft, ihr hright⟩

theorem isCanonical_merge {left right : Layout F} (hjoin : ¬ left.IsJoin)
    (hleft : left.IsCanonical) (hright : right.IsCanonical) :
    (left.merge right).IsCanonical := by
  cases left with
  | join => exact absurd trivial hjoin
  | nest | foreign =>
    exact isCanonical_join_iff.mpr ⟨hjoin, hleft, hright, rowsApart_none _⟩
  | leaf a =>
    -- a text that meets `a` is at most one step into the right side
    rcases hright.first with ⟨b, rfl⟩ | ⟨b, rest, rfl⟩ | hfirst
    · exact isCanonical_leaf (a ++ b)
    · obtain ⟨-, -, hrest, hapart⟩ := isCanonical_join_iff.mp hright
      have hab : RowsApart [some (a ++ b)] rest.row :=
        rowsApart_text_iff.mpr (rowsApart_text_iff.mp hapart)
      exact isCanonical_join_iff.mpr ⟨id, isCanonical_leaf (a ++ b), hrest, hab⟩
    · have hjoined : (join (leaf a) right).IsCanonical :=
        isCanonical_join_iff.mpr ⟨id, hleft, hright, rowsApart_text_iff.mpr hfirst⟩
      rw [merge_eq_join hjoined.not_textsMeet]
      exact hjoined

theorem isCanonical_enclose {child : Layout F} (h : child.IsCanonical) :
    child.enclose.IsCanonical := by
  cases child with
  | leaf s =>
    rw [enclose]
    split
    next hs => exact isCanonical_nest_iff.mpr ⟨hs, h⟩
    next => exact h
  | nest child => exact h
  | join | foreign => exact isCanonical_nest_iff.mpr ⟨trivial, h⟩

theorem not_isJoin_enclose (child : Layout F) : ¬ child.enclose.IsJoin := by
  cases child with
  | leaf s =>
    rw [enclose]
    split <;> exact id
  | nest | join | foreign => exact id

end Shape

/-! ## Simplification -/

theorem not_isJoin_simplify {layout : Layout Empty} (h : ¬ layout.IsJoin) :
    ¬ layout.simplify.IsJoin := by
  cases layout with
  | leaf s => rw [simplify_leaf]; exact id
  | nest child => rw [simplify_nest]; exact not_isJoin_enclose _
  | join => exact absurd trivial h
  | foreign node => exact node.elim

/-- Simplification brings a layout that leans right into canonical shape. -/
theorem isCanonical_simplify {layout : Layout Empty} (h : layout.LeansRight) :
    layout.simplify.IsCanonical := by
  induction layout with
  | leaf s =>
    rw [simplify_leaf]
    exact isCanonical_leaf s
  | nest child ih =>
    rw [simplify_nest]
    exact isCanonical_enclose (ih h)
  | join left right ihl ihr =>
    obtain ⟨hjoin, hleft, hright⟩ := h
    rw [simplify_join]
    exact isCanonical_merge (not_isJoin_simplify hjoin) (ihl hleft) (ihr hright)
  | foreign node => exact node.elim

/-- Simplification leaves canonical layouts as they are. -/
theorem simplify_eq_self {layout : Layout Empty} (h : layout.IsCanonical) :
    layout.simplify = layout :=
  simplify_of_isSimplified h.isSimplified

theorem leansRight_attachBrackets (layout : Layout Empty) :
    layout.attachBrackets.LeansRight := by
  rw [attachBrackets_eq]
  exact Chain.leansRight_leanRight _

/-- **Every normal layout is canonical.** -/
theorem isCanonical_normalize (layout : Layout Empty) : layout.normalize.IsCanonical := by
  rw [normalize_eq]
  exact isCanonical_simplify (leansRight_attachBrackets layout)

end Layout
end DeclDocs
