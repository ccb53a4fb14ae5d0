import DeclDocs.Layout.Chain

/-! # Rows and levels

What a layout looks like is a matter of its *levels*: the row of items at the
root and, inside every nest, the row of items of its child.  A row is kept here as
the list of its texts, with `none` in the place of any other item, so that a
property of rows says which texts stand next to what.  `AtEveryLevel` asks a
property of all rows of a layout; the chain of a layout has the same rows
(`atEveryLevel_chain`).

A chain with an item at every level is the chain of the layouts that are built
back from it (`chain_leanLeft`, `chain_leanRight`), and a layout that leans
right is the one built back from its own chain (`leanRight_chain`).
-/
namespace DeclDocs

/-- The texts of a row of items, with `none` for every item that is no text. -/
abbrev Row := List (Option String)

namespace Layout

variable {F : Type}

/-- The row of items of a layout. -/
def row : Layout F → Row
  | .leaf s => [some s]
  | .nest _ => [none]
  | .join left right => left.row ++ right.row
  | .foreign _ => [none]

/-- Whether a property holds of the row inside every nest. -/
def InNests (P : Row → Prop) : Layout F → Prop
  | .leaf _ => True
  | .nest child => P child.row ∧ child.InNests P
  | .join left right => left.InNests P ∧ right.InNests P
  | .foreign _ => True

/-- Whether a property holds of the row at the root and of the row inside every
nest. -/
def AtEveryLevel (P : Row → Prop) (layout : Layout F) : Prop :=
  P layout.row ∧ layout.InNests P

/-- Whether the layout is a concatenation. -/
def IsJoin : Layout F → Prop
  | .join _ _ => True
  | _ => False

/-- Whether no concatenation in the layout has a concatenation on its left. -/
def LeansRight : Layout F → Prop
  | .leaf _ => True
  | .nest child => child.LeansRight
  | .join left right => ¬ left.IsJoin ∧ left.LeansRight ∧ right.LeansRight
  | .foreign _ => True

theorem row_ne_nil (layout : Layout F) : layout.row ≠ [] := by
  induction layout with
  | leaf | nest | foreign => simp [row]
  | join left right ihl _ => simp [row, ihl]

theorem inNests_of_forall {P : Row → Prop} (hP : ∀ layout : Layout F, P layout.row)
    (layout : Layout F) : layout.InNests P := by
  induction layout with
  | leaf | foreign => trivial
  | nest child ih => exact ⟨hP child, ih⟩
  | join left right ihl ihr => exact ⟨ihl, ihr⟩

end Layout

namespace Chain

variable {F : Type}

/-- The row of items of a chain. -/
def row : Chain F → Row
  | .nil => []
  | .text s rest => some s :: rest.row
  | .nest _ rest => none :: rest.row
  | .foreign _ rest => none :: rest.row

/-- Whether a property holds of the row inside every nest. -/
def InNests (P : Row → Prop) : Chain F → Prop
  | .nil => True
  | .text _ rest => rest.InNests P
  | .nest inner rest => (P inner.row ∧ inner.InNests P) ∧ rest.InNests P
  | .foreign _ rest => rest.InNests P

/-- Whether a property holds of the row of the chain and of the row inside every
nest. -/
def AtEveryLevel (P : Row → Prop) (chain : Chain F) : Prop :=
  P chain.row ∧ chain.InNests P

/-- Whether there is an item at every level, as there is in the chain of a
layout. -/
def Filled (chain : Chain F) : Prop :=
  chain.AtEveryLevel (· ≠ [])

@[simp] theorem row_append (chain after : Chain F) :
    (chain ++ after).row = chain.row ++ after.row := by
  induction chain with
  | nil => rfl
  | text | nest | foreign => simp [row, *]

@[simp] theorem inNests_append {P : Row → Prop} (chain after : Chain F) :
    (chain ++ after).InNests P ↔ chain.InNests P ∧ after.InNests P := by
  induction chain with
  | nil => simp [InNests]
  | text | nest | foreign => simp [InNests, and_assoc, *]

theorem row_eq_nil_iff {chain : Chain F} : chain.row = [] ↔ chain = .nil := by
  cases chain <;> simp [row]

theorem append_ne_nil (chain : Chain F) {after : Chain F} (h : after ≠ .nil) :
    chain ++ after ≠ .nil := by
  cases chain with
  | nil => exact h
  | text | nest | foreign => simp

theorem InNests.imp {P Q : Row → Prop} {chain : Chain F} (h : chain.InNests P)
    (hPQ : ∀ row, P row → Q row) : chain.InNests Q := by
  induction chain with
  | nil => trivial
  | text s rest ih => exact ih h
  | nest inner rest ihi ih => exact ⟨⟨hPQ _ h.1.1, ihi h.1.2⟩, ih h.2⟩
  | foreign node rest ih => exact ih h

theorem inNests_and {P Q : Row → Prop} {chain : Chain F} :
    chain.InNests (fun row => P row ∧ Q row) ↔ chain.InNests P ∧ chain.InNests Q := by
  induction chain with
  | nil => simp [InNests]
  | text | foreign => assumption
  | nest inner rest ihi ih =>
    simp only [InNests, ihi, ih]
    constructor
    · rintro ⟨⟨⟨hP, hQ⟩, hPs, hQs⟩, hPr, hQr⟩
      exact ⟨⟨⟨hP, hPs⟩, hPr⟩, ⟨hQ, hQs⟩, hQr⟩
    · rintro ⟨⟨⟨hP, hPs⟩, hPr⟩, ⟨hQ, hQs⟩, hQr⟩
      exact ⟨⟨⟨hP, hQ⟩, hPs, hQs⟩, hPr, hQr⟩

theorem atEveryLevel_and {P Q : Row → Prop} {chain : Chain F} :
    chain.AtEveryLevel (fun row => P row ∧ Q row) ↔
      chain.AtEveryLevel P ∧ chain.AtEveryLevel Q := by
  rw [AtEveryLevel, inNests_and, and_and_and_comm, ← AtEveryLevel, ← AtEveryLevel]

theorem InNests.filled {chain : Chain F} (h : chain.InNests (· ≠ [])) (hne : chain ≠ .nil) :
    chain.Filled :=
  ⟨mt row_eq_nil_iff.mp hne, h⟩

theorem Filled.ne_nil {chain : Chain F} (h : chain.Filled) : chain ≠ .nil :=
  mt row_eq_nil_iff.mpr h.1

end Chain

namespace Layout

variable {F : Type}

@[simp] theorem row_chain (layout : Layout F) : layout.chain.row = layout.row := by
  induction layout with
  | leaf | nest | foreign => simp [Chain.row, row]
  | join left right ihl ihr => rw [chain_join, Chain.row_append, ihl, ihr, row]

theorem inNests_chain {P : Row → Prop} (layout : Layout F) :
    layout.chain.InNests P ↔ layout.InNests P := by
  induction layout with
  | leaf | foreign => simp [Chain.InNests, InNests]
  | nest child ih => simp [Chain.InNests, InNests, ih]
  | join left right ihl ihr => rw [chain_join, Chain.inNests_append, ihl, ihr, InNests]

/-- A layout and its chain have the same rows. -/
theorem atEveryLevel_chain {P : Row → Prop} (layout : Layout F) :
    layout.chain.AtEveryLevel P ↔ layout.AtEveryLevel P := by
  rw [Chain.AtEveryLevel, row_chain, inNests_chain, AtEveryLevel]

theorem filled_chain (layout : Layout F) : layout.chain.Filled :=
  (atEveryLevel_chain layout).mpr ⟨row_ne_nil layout, inNests_of_forall row_ne_nil layout⟩

theorem chain_ne_nil (layout : Layout F) : layout.chain ≠ .nil :=
  (filled_chain layout).ne_nil

end Layout

namespace Chain

variable {F : Type}

/-! ## Chains built back into layouts -/

mutual

theorem chain_leanLeft : ∀ chain : Chain F, chain.Filled → chain.leanLeft.chain = chain
  | .nil, h => absurd rfl h.ne_nil
  | .text s rest, h => by
    rw [leanLeft, chain_leanLeftFrom rest h.2, Layout.chain_leaf, text_append, nil_append]
  | .nest inner rest, h => by
    rw [leanLeft, chain_leanLeftFrom rest h.2.2, Layout.chain_nest, chain_leanLeft inner h.2.1,
      nest_append, nil_append]
  | .foreign node rest, h => by
    rw [leanLeft, chain_leanLeftFrom rest h.2, Layout.chain_foreign, foreign_append, nil_append]

theorem chain_leanLeftFrom : ∀ chain : Chain F, chain.InNests (· ≠ []) →
    ∀ done : Layout F, (chain.leanLeftFrom done).chain = done.chain ++ chain
  | .nil, _, done => by rw [leanLeftFrom, append_nil]
  | .text s rest, h, done => by
    rw [leanLeftFrom, chain_leanLeftFrom rest h, Layout.chain_join, append_assoc,
      Layout.chain_leaf, text_append, nil_append]
  | .nest inner rest, h, done => by
    rw [leanLeftFrom, chain_leanLeftFrom rest h.2, Layout.chain_join, append_assoc,
      Layout.chain_nest, chain_leanLeft inner h.1, nest_append, nil_append]
  | .foreign node rest, h, done => by
    rw [leanLeftFrom, chain_leanLeftFrom rest h, Layout.chain_join, append_assoc,
      Layout.chain_foreign, foreign_append, nil_append]

end

theorem leanRight_text (s : String) {rest : Chain F} (h : rest ≠ .nil) :
    (text s rest).leanRight = .join (.leaf s) rest.leanRight := by
  cases rest with
  | nil => exact absurd rfl h
  | text | nest | foreign => rfl

theorem leanRight_nest (inner : Chain F) {rest : Chain F} (h : rest ≠ .nil) :
    (nest inner rest).leanRight = .join (.nest inner.leanRight) rest.leanRight := by
  cases rest with
  | nil => exact absurd rfl h
  | text | nest | foreign => rfl

theorem leanRight_foreign (node : F) {rest : Chain F} (h : rest ≠ .nil) :
    (foreign node rest).leanRight = .join (.foreign node) rest.leanRight := by
  cases rest with
  | nil => exact absurd rfl h
  | text | nest | foreign => rfl

theorem chain_leanRight {chain : Chain F} (h : chain.Filled) : chain.leanRight.chain = chain := by
  induction chain with
  | nil => exact absurd rfl h.ne_nil
  | text s rest ih =>
    by_cases hrest : rest = .nil
    · rw [hrest, leanRight, Layout.chain_leaf]
    · rw [leanRight_text s hrest, Layout.chain_join, Layout.chain_leaf, text_append, nil_append,
        ih ⟨mt row_eq_nil_iff.mp hrest, h.2⟩]
  | nest inner rest ihi ih =>
    obtain ⟨-, hinner, hrests⟩ := h
    by_cases hrest : rest = .nil
    · rw [hrest, leanRight, Layout.chain_nest, ihi hinner]
    · rw [leanRight_nest inner hrest, Layout.chain_join, Layout.chain_nest, ihi hinner,
        nest_append, nil_append, ih ⟨mt row_eq_nil_iff.mp hrest, hrests⟩]
  | foreign node rest ih =>
    by_cases hrest : rest = .nil
    · rw [hrest, leanRight, Layout.chain_foreign]
    · rw [leanRight_foreign node hrest, Layout.chain_join, Layout.chain_foreign, foreign_append,
        nil_append, ih ⟨mt row_eq_nil_iff.mp hrest, h.2⟩]

theorem leansRight_leanRight (chain : Chain F) : chain.leanRight.LeansRight := by
  induction chain with
  | nil => trivial
  | text s rest ih =>
    by_cases hrest : rest = .nil
    · rw [hrest, leanRight]; trivial
    · rw [leanRight_text s hrest]
      exact ⟨id, trivial, ih⟩
  | nest inner rest ihi ih =>
    by_cases hrest : rest = .nil
    · rw [hrest, leanRight]; exact ihi
    · rw [leanRight_nest inner hrest]
      exact ⟨id, ihi, ih⟩
  | foreign node rest ih =>
    by_cases hrest : rest = .nil
    · rw [hrest, leanRight]; trivial
    · rw [leanRight_foreign node hrest]
      exact ⟨id, trivial, ih⟩

end Chain

namespace Layout

variable {F : Type}

/-- A layout that leans right is built back from its chain. -/
theorem leanRight_chain {layout : Layout F} (h : layout.LeansRight) :
    layout.chain.leanRight = layout := by
  induction layout with
  | leaf s => rw [chain_leaf, Chain.leanRight]
  | nest child ih => rw [chain_nest, Chain.leanRight, ih h]
  | foreign node => rw [chain_foreign, Chain.leanRight]
  | join left right ihl ihr =>
    obtain ⟨hjoin, hleft, hright⟩ := h
    have hne := chain_ne_nil right
    cases left with
    | leaf s =>
      rw [chain_join, chain_leaf, Chain.text_append, Chain.nil_append,
        Chain.leanRight_text s hne, ihr hright]
    | nest child =>
      have hchild := ihl hleft
      rw [chain_nest, Chain.leanRight] at hchild
      rw [chain_join, chain_nest, Chain.nest_append, Chain.nil_append,
        Chain.leanRight_nest _ hne, hchild, ihr hright]
    | foreign node =>
      rw [chain_join, chain_foreign, Chain.foreign_append, Chain.nil_append,
        Chain.leanRight_foreign node hne, ihr hright]
    | join => exact absurd trivial hjoin

end Layout
end DeclDocs
