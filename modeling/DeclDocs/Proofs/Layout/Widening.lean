import Mathlib.Data.List.Forall2
import DeclDocs.Proofs.Layout.Nests

/-! # What attaching brackets does to nests

Brackets cross the boundaries of nests, from either side and through several nests at
once.  Nothing else does: attaching brackets makes and drops no nest, takes no text out of
one and puts none but brackets into one.

This is said of the nests in order, each with the nests around it (`Nesting.WidensTo`).  A
nest encloses what it enclosed before, with opening brackets in front and closing brackets
behind; and it begins earlier in the text by just those opening brackets
(`Enclosure.IsWidened`).  Closing brackets only widen a nest behind
(`Chain.nestsWiden_closed`) and opening brackets only in front (`Chain.nestsWiden_opened`);
what is pending has left the row but still counts as text before it.
-/
namespace DeclDocs

/-- Whether an enclosure is another one widened by some brackets on either side. -/
structure Enclosure.IsWidened (opening closing : List String) (enclosure wider : Enclosure) :
    Prop where
  opens : ∀ s ∈ opening, s ∈ openingBrackets
  closes : ∀ s ∈ closing, s ∈ closingBrackets
  text : wider.text = String.join opening ++ enclosure.text ++ String.join closing
  /-- The brackets in front are the end of the text that stood before. -/
  before : enclosure.before = wider.before ++ String.join opening

/-- Whether an enclosure is another one widened by brackets. -/
def Enclosure.WidensTo (enclosure wider : Enclosure) : Prop :=
  ∃ opening closing, enclosure.IsWidened opening closing wider

/-- Whether a nest and the nests around it are those of another one widened by brackets. -/
structure Nesting.WidensTo (nesting wider : Nesting) : Prop where
  self : nesting.self.WidensTo wider.self
  around : List.Forall₂ Enclosure.WidensTo nesting.around wider.around

theorem Enclosure.WidensTo.trans {first second third : Enclosure} (h : first.WidensTo second)
    (h' : second.WidensTo third) : first.WidensTo third := by
  obtain ⟨opening, closing, hopens, hcloses, htext, hbefore⟩ := h
  obtain ⟨opening', closing', hopens', hcloses', htext', hbefore'⟩ := h'
  refine ⟨opening' ++ opening, closing ++ closing', ?_, ?_, ?_, ?_⟩
  · exact List.forall_mem_append.mpr ⟨hopens', hopens⟩
  · exact List.forall_mem_append.mpr ⟨hcloses, hcloses'⟩
  · rw [htext', htext, String.join_append, String.join_append]
    simp only [String.append_assoc]
  · rw [hbefore, hbefore', String.join_append, String.append_assoc]

theorem forall₂_trans {α : Type} {R : α → α → Prop} (hR : ∀ {a b c : α}, R a b → R b c → R a c)
    {first second third : List α} (h : List.Forall₂ R first second)
    (h' : List.Forall₂ R second third) : List.Forall₂ R first third := by
  induction h generalizing third with
  | nil => exact h'
  | cons hhead _ ih =>
    cases h' with
    | cons hhead' htail' => exact .cons (hR hhead hhead') (ih htail')

theorem Nesting.WidensTo.trans {first second third : Nesting} (h : first.WidensTo second)
    (h' : second.WidensTo third) : first.WidensTo third where
  self := h.self.trans h'.self
  around := forall₂_trans (fun hab hbc => hab.trans hbc) h.around h'.around

namespace Chain

/-- Whether the chain is a single nest. -/
def isNest : Chain Empty → Bool
  | .nest _ .nil => true
  | _ => false

theorem isNest_append {chain after : Chain Empty} (h : chain ≠ .nil) (hafter : after ≠ .nil) :
    (chain ++ after).isNest = false := by
  cases chain with
  | nil => exact absurd rfl h
  | text s rest => rfl
  | nest inner rest =>
    have hmore := append_ne_nil rest hafter
    rw [nest_append]
    cases hrest : rest ++ after with
    | nil => exact absurd hrest hmore
    | text | nest | foreign => rfl
  | foreign node => exact node.elim

/-- The nests of a chain that stands after a text and inside some nests. -/
def nestingsAfter (before : String) (around : List Enclosure) : Chain Empty → List Nesting
  | .nil => []
  | .text s rest => rest.nestingsAfter (before ++ s) around
  | .nest inner rest =>
    let self : Enclosure := ⟨before, inner.allText, inner.isNest⟩
    ⟨self, around⟩ :: inner.nestingsAfter before (self :: around) ++
      rest.nestingsAfter (before ++ inner.allText) around
  | .foreign absurdity _ => absurdity.elim

theorem nestingsAfter_append (chain after : Chain Empty) (before : String)
    (around : List Enclosure) :
    (chain ++ after).nestingsAfter before around =
      chain.nestingsAfter before around ++ after.nestingsAfter (before ++ chain.allText) around := by
  induction chain generalizing before with
  | nil => rw [nil_append, nestingsAfter, allText, String.append_empty, List.nil_append]
  | text s rest ih =>
    rw [text_append, nestingsAfter, ih, nestingsAfter, allText, String.append_assoc]
  | nest inner rest _ ih =>
    rw [nest_append, nestingsAfter, ih, nestingsAfter, allText, String.append_assoc,
      List.append_assoc]
  | foreign node => exact node.elim

/-- Whether the nests of a chain after a text are those of another one after another text,
each widened by brackets, if the nests around them are. -/
def NestsWiden (before : String) (chain : Chain Empty) (before' : String)
    (chain' : Chain Empty) : Prop :=
  ∀ around around', List.Forall₂ Enclosure.WidensTo around around' →
    List.Forall₂ Nesting.WidensTo (chain.nestingsAfter before around)
      (chain'.nestingsAfter before' around')

theorem nestsWiden_nil (before before' : String) : NestsWiden before .nil before' .nil :=
  fun _ _ _ => .nil

theorem nestsWiden_text {before before' s s' : String} {rest rest' : Chain Empty}
    (hrest : NestsWiden (before ++ s) rest (before' ++ s') rest') :
    NestsWiden before (text s rest) before' (text s' rest') :=
  hrest

/-- A text that is left out is text before the rest. -/
theorem nestsWiden_text_left {before before' s : String} {rest rest' : Chain Empty}
    (hrest : NestsWiden (before ++ s) rest before' rest') :
    NestsWiden before (text s rest) before' rest' :=
  hrest

theorem nestsWiden_nest {before before' : String} {inner inner' rest rest' : Chain Empty}
    (hself : Enclosure.WidensTo ⟨before, inner.allText, inner.isNest⟩
      ⟨before', inner'.allText, inner'.isNest⟩)
    (hinner : NestsWiden before inner before' inner')
    (hrest : NestsWiden (before ++ inner.allText) rest (before' ++ inner'.allText) rest') :
    NestsWiden before (nest inner rest) before' (nest inner' rest') := by
  intro around around' haround
  have hinside := hinner _ _ (.cons hself haround)
  exact .cons ⟨hself, haround⟩ (List.rel_append hinside (hrest _ _ haround))

/-! ## Closing brackets -/

/-- A nest takes in the closing brackets that the items behind it leave pending. -/
theorem nestsWiden_nest_closed {before : String} {inner rest rest' : Chain Empty}
    {pending : List String} (hpending : ∀ s ∈ pending, s ∈ closingBrackets)
    (hinner : NestsWiden before inner before (inner.closed pending))
    (hrest : NestsWiden (before ++ inner.allText) rest
      (before ++ inner.allText ++ String.join pending) rest') :
    NestsWiden before (nest inner rest) before (nest (inner.closed pending) rest') := by
  have hself : Enclosure.WidensTo ⟨before, inner.allText, inner.isNest⟩
      ⟨before, (inner.closed pending).allText, (inner.closed pending).isNest⟩ := by
    refine ⟨[], pending, List.forall_mem_nil _, hpending, ?_, ?_⟩
    · rw [allText_closed, String.join_nil, String.empty_append]
    · rw [String.join_nil, String.append_empty]
  rw [String.append_assoc, ← allText_closed] at hrest
  exact nestsWiden_nest hself hinner hrest

mutual

theorem nestsWiden_closed : ∀ (chain : Chain Empty) (before : String) {pending : List String},
    (∀ s ∈ pending, s ∈ closingBrackets) →
    NestsWiden before chain before (chain.closed pending)
  | .nil, _, _, _ => fun _ _ _ => .nil
  | .text s rest, before, pending, hpending => by
    have hrest := nestsWiden_closedAfter rest (before ++ s) hpending
    rw [String.append_assoc] at hrest
    rw [closed_text]
    exact nestsWiden_text hrest
  | .nest inner rest, before, pending, hpending => by
    have hleft := mem_closingBrackets_closedAfter rest hpending
    have hrest := nestsWiden_closedAfter rest (before ++ inner.allText) hpending
    rw [closed_nest]
    exact nestsWiden_nest_closed hleft (nestsWiden_closed inner before hleft) hrest
  | .foreign node _, _, _, _ => node.elim

/-- What the items leave pending is text before those that remain. -/
theorem nestsWiden_closedAfter : ∀ (chain : Chain Empty) (before : String)
    {pending : List String}, (∀ s ∈ pending, s ∈ closingBrackets) →
    NestsWiden before chain (before ++ String.join (chain.closedAfter pending).2)
      (chain.closedAfter pending).1
  | .nil, _, _, _ => nestsWiden_nil _ _
  | .text s rest, before, pending, hpending => by
    have hrest := nestsWiden_closedAfter rest (before ++ s) hpending
    rw [String.append_assoc] at hrest
    rcases closedAfter_text_cases s rest pending with ⟨rfl, h⟩ | ⟨-, h⟩ | ⟨-, h⟩
    · rw [String.empty_append] at hrest
      rw [h]
      exact nestsWiden_text_left hrest
    · rw [h, String.join_cons]
      exact nestsWiden_text_left hrest
    · rw [h, String.join_nil, String.append_empty]
      exact nestsWiden_text hrest
  | .nest inner rest, before, pending, hpending => by
    have hleft := mem_closingBrackets_closedAfter rest hpending
    have hrest := nestsWiden_closedAfter rest (before ++ inner.allText) hpending
    rw [closedAfter_nest, String.join_nil, String.append_empty]
    exact nestsWiden_nest_closed hleft (nestsWiden_closed inner before hleft) hrest
  | .foreign node _, _, _, _ => node.elim

end

/-! ## Opening brackets -/

theorem nestsWiden_openedRow {rest : Chain Empty}
    (h : ∀ before, NestsWiden (before ++ String.join []) rest before (rest.opened []))
    (before : String) : NestsWiden before rest before rest.openedRow := by
  by_cases hrest : rest = .nil
  · rw [hrest]
    exact nestsWiden_nil _ _
  · have hopened := h before
    rwa [String.join_nil, String.append_empty, ← openedRow_of_ne_nil hrest] at hopened

/-- What is pending is text before the row until it is attached. -/
theorem nestsWiden_opened (chain : Chain Empty) (before : String) {pending : List String}
    (hpending : ∀ s ∈ pending, s ∈ openingBrackets) :
    NestsWiden (before ++ String.join pending) chain before (chain.opened pending) := by
  induction chain generalizing before pending with
  | nil => exact fun _ _ _ => .nil
  | text s rest ih =>
    by_cases hrest : rest = .nil
    · rw [hrest, opened_text_last]
      exact fun _ _ _ => .nil
    rcases opened_text_cases s hrest pending with ⟨rfl, h⟩ | ⟨hs, h⟩ | ⟨hloose, -⟩
    · rw [h]
      apply nestsWiden_text_left
      rw [String.append_empty]
      exact ih before hpending
    · have hall : ∀ t ∈ pending ++ [s], t ∈ openingBrackets :=
        List.forall_mem_append.mpr ⟨hpending, List.forall_mem_singleton.mpr hs⟩
      have hopened := ih before hall
      rw [join_concat, ← String.append_assoc] at hopened
      rw [h]
      exact nestsWiden_text_left hopened
    · have hrow := nestsWiden_openedRow fun before => ih before (List.forall_mem_nil _)
      rw [opened_text_row hloose]
      apply nestsWiden_text
      rw [String.append_assoc]
      exact hrow _
  | nest inner rest ihi ih =>
    have hself : Enclosure.WidensTo
        ⟨before ++ String.join pending, inner.allText, inner.isNest⟩
        ⟨before, (inner.opened pending).allText, (inner.opened pending).isNest⟩ := by
      refine ⟨pending, [], hpending, List.forall_mem_nil _, ?_, rfl⟩
      rw [allText_opened, String.join_nil, String.append_empty]
    have hrow := nestsWiden_openedRow fun before => ih before (List.forall_mem_nil _)
    rw [opened_nest_row]
    refine nestsWiden_nest hself (ihi before hpending) ?_
    rw [allText_opened, String.append_assoc]
    exact hrow _
  | foreign node => exact node.elim

end Chain

namespace Layout

theorem isNest_chain (layout : Layout Empty) : layout.chain.isNest = layout.isNest := by
  cases layout with
  | leaf s => rw [chain_leaf]; rfl
  | nest child => rw [chain_nest]; rfl
  | join left right =>
    rw [chain_join, Chain.isNest_append (chain_ne_nil left) (chain_ne_nil right)]
    rfl
  | foreign node => exact node.elim

theorem nestingsAfter_chain (layout : Layout Empty) (before : String)
    (around : List Enclosure) :
    layout.chain.nestingsAfter before around = layout.nestingsAfter before around := by
  induction layout generalizing before around with
  | leaf s => rw [chain_leaf]; rfl
  | nest child ih =>
    rw [chain_nest, Chain.nestingsAfter, allText_chain, isNest_chain, ih, Chain.nestingsAfter,
      List.append_nil, nestingsAfter]
  | join left right ihl ihr =>
    rw [chain_join, Chain.nestingsAfter_append, ihl, ihr, allText_chain, nestingsAfter]
  | foreign node => exact node.elim

/-- **Attaching brackets keeps the nests and moves nothing but brackets.**  The nests of the
result are those of the layout, one by one in order and with the same nests around them, so
that each has the parent it had; and each encloses what it enclosed before, with opening
brackets in front and closing brackets behind, and begins earlier in the text by just those
opening brackets. -/
theorem nestings_attachBrackets (layout : Layout Empty) :
    List.Forall₂ Nesting.WidensTo layout.nestings layout.attachBrackets.nestings := by
  have hnone : ∀ brackets : List String, ∀ s ∈ ([] : List String), s ∈ brackets :=
    fun _ => List.forall_mem_nil _
  have hclosed := Chain.nestsWiden_closed layout.chain "" (hnone closingBrackets) [] [] .nil
  have hopened := Chain.nestsWiden_opened (layout.chain.closed []) "" (hnone openingBrackets)
    [] [] .nil
  rw [String.join_nil, String.append_empty] at hopened
  rw [nestings, nestings, ← nestingsAfter_chain, ← nestingsAfter_chain, chain_attachBrackets]
  exact forall₂_trans (fun hab hbc => hab.trans hbc) hclosed hopened

/-- Brackets on either side of two nests get to the text inside. -/
example :
    (attachBrackets (.join (.leaf "(") (.join (.nest (.join (.nest (.leaf "x")) (.leaf "y")))
      (.leaf ")")))).nestings =
      [⟨⟨"", "(xy)", false⟩, []⟩, ⟨⟨"", "(x", false⟩, [⟨"", "(xy)", false⟩]⟩] := by
  decide +kernel

end Layout
end DeclDocs
